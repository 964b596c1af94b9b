import Mathlib
import SocAssembly.Proofs.HeaderReading
import SocAssembly.Proofs.PreparedFiles

/-!
# Which devices are supported

## The model

A device of the supported family is written as the name of a member, a hyphen, a number and the
letter F (`IsDevice`). The letters of the member may be small or large, and no other letter can take
their place: the mapping to upper case has letters of other alphabets that become letters of the
basic one, but none of them, nor any run of letters that a single one expands to, is part of the
name of a member (`Text.IsUnmixed`, `Text.uppercase_eq_iff`).

The flag for a device is made of a mark for the member and the number
(`deviceFlag?_eq_some_iff`), and both can be read off the flag (`deviceFlag_inj`). A plan calls one
of its tools with this flag, and nothing else that a tool is called with reads as such a flag,
whatever the package is (`deviceFlags_toolSteps`). There is no plan for any other device, and as a
build is planned before it touches a file, nothing is done for it (`Elaboration.plansDevice`).
-/

namespace SocAssembly

/-! ### Names in capitals -/

namespace Text

/-- The code points of the capitals and the digits of the basic alphabet. -/
def capitalCodes : List Nat := List.range' 0x41 26 ++ List.range' 0x30 10

theorem pos_of_mem_capitalCodes {n : Nat} (h : n ∈ capitalCodes) : 0 < n := by
  have all : ∀ n ∈ capitalCodes, 0 < n := by decide
  exact all n h

/-- The name consists of capitals and digits of the basic alphabet, and letters of other alphabets
have neither these nor any part of the name for their upper-case form. -/
def IsUnmixed (name : String) : Prop :=
  (∀ n ∈ name.toList.map Char.toNat, n ∈ capitalCodes ∧ CaseShifts.Misses upperShifts.tail n) ∧
    ∀ x ∈ upperExpansions, ¬ x.2.map Char.ofNat <:+: name.toList

instance (name : String) : Decidable (IsUnmixed name) := inferInstanceAs (Decidable (_ ∧ _))

section Capitals

variable {c d : Char}

theorem toUpper_of_mem_capitalCodes (h : d.toNat ∈ capitalCodes) : d.toUpper = d := by
  have all : ∀ n ∈ capitalCodes, (Char.ofNat n).toUpper = Char.ofNat n := by decide
  simpa using all d.toNat h

theorem upperChars_of_mem_capitalCodes (h : d.toNat ∈ capitalCodes) : upperChars d = [d] := by
  have all : ∀ n ∈ capitalCodes, upperChars (Char.ofNat n) = [Char.ofNat n] := by decide +kernel
  simpa using all d.toNat h

/-- What has a capital for its upper-case form in the basic alphabet has it in all of them. -/
theorem upperChars_of_toUpper_eq (h : d.toNat ∈ capitalCodes) (same : c.toUpper = d) :
    upperChars c = [d] := by
  by_cases small : c.isLower = true
  · rw [upperChars_of_plain (by simp [isPlainChar, small]), same]
  · rw [Char.toUpper_eq_of_not_isLower small] at same
    rw [same, upperChars_of_mem_capitalCodes h]

/-- A letter that is moved to a capital that no letter of another alphabet is moved to is small. -/
theorem toUpper_eq_of_apply (h : d.toNat ∈ capitalCodes)
    (misses : CaseShifts.Misses upperShifts.tail d.toNat)
    (moved : upperShifts.apply c.toNat = d.toNat) : c.toUpper = d := by
  have split : upperShifts = (0x61, 0x7A, 1, -32) :: upperShifts.tail := rfl
  by_cases small : 0x61 ≤ c.toNat ∧ c.toNat ≤ 0x7A
  · -- the small letters of the basic alphabet are the first run of the mapping
    have all : ∀ n ∈ List.range' 0x61 26,
        upperShifts.apply n = (Char.ofNat n).toUpper.toNat := by decide +kernel
    have image := all c.toNat (by rw [List.mem_range'_1]; omega)
    rw [Char.ofNat_toNat, moved] at image
    exact (Char.toNat_inj.1 image).symm
  · have kept : c.toNat = d.toNat := by
      rw [split, CaseShifts.apply] at moved
      split at moved
      · exact moved
      · split at moved
        · omega
        · exact misses.eq_of_apply (pos_of_mem_capitalCodes h) moved
    rw [Char.toNat_inj.1 kept, toUpper_of_mem_capitalCodes h]

end Capitals

theorem sameButForCase_iff_map_toUpper {a b : String} :
    sameButForCase a b = true ↔ a.toList.map Char.toUpper = b.toList.map Char.toUpper := by
  have upper : ∀ cs : List Char, (cs.map Char.toLower).map Char.toUpper = cs.map Char.toUpper := by
    intro cs
    rw [List.map_map]
    exact List.map_congr_left fun c _ => c.toUpper_toLower_eq_toUpper
  have lower : ∀ cs : List Char, (cs.map Char.toUpper).map Char.toLower = cs.map Char.toLower := by
    intro cs
    rw [List.map_map]
    exact List.map_congr_left fun c _ => c.toLower_toUpper_eq_toLower
  unfold sameButForCase
  rw [beq_iff_eq]
  constructor
  · intro same
    rw [← upper, same, upper]
  · intro same
    rw [← lower, same, lower]

namespace IsUnmixed

variable {name : String}

theorem mem_capitalCodes (h : IsUnmixed name) {d : Char} (hd : d ∈ name.toList) :
    d.toNat ∈ capitalCodes := (h.1 _ (List.mem_map_of_mem hd)).1

theorem misses (h : IsUnmixed name) {d : Char} (hd : d ∈ name.toList) :
    CaseShifts.Misses upperShifts.tail d.toNat := (h.1 _ (List.mem_map_of_mem hd)).2

theorem map_toUpper (h : IsUnmixed name) : name.toList.map Char.toUpper = name.toList := by
  conv_rhs => rw [← List.map_id name.toList]
  exact List.map_congr_left fun d hd => toUpper_of_mem_capitalCodes (h.mem_capitalCodes hd)

/-- A text that becomes the name in upper case has no letter that expands. -/
theorem lookup_eq_none (h : IsUnmixed name) {cs : List Char}
    (same : cs.flatMap upperChars = name.toList) {c : Char} (hc : c ∈ cs) :
    upperExpansions.lookup c.toNat = none := by
  cases found : upperExpansions.lookup c.toNat with
  | none => rfl
  | some image =>
    exfalso
    obtain ⟨before, after, split, -⟩ := List.lookup_eq_some_iff.1 found
    have expanded : upperChars c = image.map Char.ofNat := by
      unfold upperChars mapCase
      rw [found]
    refine h.2 (c.toNat, image) (by simp [split]) ?_
    rw [← same, ← expanded]
    exact List.infix_flatMap_of_mem hc upperChars

end IsUnmixed

/-- **Only letters of the basic alphabet become an unmixed name in upper case.** -/
theorem uppercase_eq_iff {name : String} (h : IsUnmixed name) {s : String} :
    uppercase s = name ↔ sameButForCase s name = true := by
  rw [sameButForCase_iff_map_toUpper, h.map_toUpper, uppercase, ← String.toList_inj,
    String.toList_ofList]
  constructor
  · intro same
    have single : ∀ c ∈ s.toList, upperChars c = [c.toUpper] := by
      intro c hc
      have moved : upperChars c = [Char.ofNat (upperShifts.apply c.toNat)] := by
        unfold upperChars mapCase
        rw [h.lookup_eq_none same hc]
      have mem : Char.ofNat (upperShifts.apply c.toNat) ∈ name.toList := by
        rw [← same]
        exact List.mem_flatMap_of_mem hc (by simp [moved])
      have capital := h.mem_capitalCodes mem
      have image := eq_toNat_of_ofNat (pos_of_mem_capitalCodes capital) rfl
      rw [moved, toUpper_eq_of_apply capital (h.misses mem) image]
    rw [← same, List.flatMap_congr single, List.map_eq_flatMap]
  · intro same
    have single : ∀ c ∈ s.toList, upperChars c = [c.toUpper] := by
      intro c hc
      have mem : c.toUpper ∈ name.toList := same ▸ List.mem_map_of_mem hc
      exact upperChars_of_toUpper_eq (h.mem_capitalCodes mem) rfl
    rw [List.flatMap_congr single, ← List.map_eq_flatMap, same]

end Text

/-! ### Devices -/

/-- The members of the supported family, each with the mark that it has in the flag. -/
def deviceMembers : List (String × String) :=
  [("LFE5U", ""), ("LFE5UM", "um-"), ("LFE5UM5G", "um5g-")]

/-- The text is a number in decimal digits. -/
def IsNumber (digits : String) : Prop := digits ≠ "" ∧ ∀ c ∈ digits.toList, c.isDigit = true

/-- The device is the member with this name that has so many cells: the name, whose letters may be
small, a hyphen, the number and a capital F. -/
def IsDevice (device member digits : String) : Prop :=
  ∃ family, device = family ++ "-" ++ digits ++ "F" ∧
    Text.sameButForCase family member = true ∧ IsNumber digits

/-- The device is some member of the family. -/
def IsSupported (device : String) : Prop :=
  ∃ member mark digits, (member, mark) ∈ deviceMembers ∧ IsDevice device member digits

/-- The devices differ at most in the case of what stands in front of their hyphen. -/
def SameDevice (device device' : String) : Prop :=
  ∃ family family' size, device = family ++ "-" ++ size ∧ device' = family' ++ "-" ++ size ∧
    Text.sameButForCase family family' = true

section Reading

variable {member member' mark mark' digits digits' family device device' flag : String}

/-- Only letters of the basic alphabet become the name of a member in upper case. -/
theorem uppercase_eq_member_iff (mem : (member, mark) ∈ deviceMembers) :
    Text.uppercase family = member ↔ Text.sameButForCase family member = true := by
  have unmixed : ∀ x ∈ deviceMembers, Text.IsUnmixed x.1 := by decide +kernel
  exact Text.uppercase_eq_iff (unmixed _ mem)

theorem familyMark?_eq_some_iff : familyMark? family = some mark ↔
    ∃ member, (member, mark) ∈ deviceMembers ∧ Text.sameButForCase family member = true := by
  constructor
  · intro h
    have found : ∀ {member mark}, (member, mark) ∈ deviceMembers →
        Text.uppercase family = member → ∃ member, (member, mark) ∈ deviceMembers ∧
          Text.sameButForCase family member = true :=
      fun mem upper => ⟨_, mem, (uppercase_eq_member_iff mem).1 upper⟩
    unfold familyMark? at h
    split at h
    case h_4 => cases h
    all_goals
      rename_i upper
      cases h
      exact found (by decide) upper
  · rintro ⟨member, mem, same⟩
    have upper := (uppercase_eq_member_iff mem).2 same
    simp only [deviceMembers, List.mem_cons, Prod.mk.injEq, List.not_mem_nil, or_false] at mem
    unfold familyMark?
    rw [upper]
    rcases mem with ⟨rfl, rfl⟩ | ⟨rfl, rfl⟩ | ⟨rfl, rfl⟩ <;> rfl

theorem cellCount?_eq_some_iff {size cells : List Char} : cellCount? size = some cells ↔
    size = cells ++ ['F'] ∧ cells ≠ [] ∧ ∀ c ∈ cells, c.isDigit = true := by
  unfold cellCount?
  constructor
  · intro h
    simp only [Option.ite_none_right_eq_some, Option.some.injEq, Bool.and_eq_true,
      decide_eq_true_eq, Bool.not_eq_true', List.isEmpty_eq_false_iff, List.all_eq_true] at h
    obtain ⟨⟨⟨last, some⟩, digits⟩, rfl⟩ := h
    obtain ⟨front, rfl⟩ := List.getLast?_eq_some_iff.1 last
    rw [List.dropLast_concat] at some digits ⊢
    exact ⟨rfl, some, digits⟩
  · rintro ⟨rfl, some, digits⟩
    simp [some, List.all_eq_true.2 digits]

/-- What stands in front of the first hyphen and what stands behind it. -/
theorem span_hyphen_eq_iff {cs front back : List Char} :
    cs.span (· ≠ '-') = (front, '-' :: back) ↔ '-' ∉ front ∧ cs = front ++ '-' :: back := by
  rw [List.span_eq_takeWhile_dropWhile, Prod.mk.injEq]
  constructor
  · rintro ⟨rfl, behind⟩
    refine ⟨fun mem => by simpa using List.mem_takeWhile_imp mem, ?_⟩
    rw [← behind, List.takeWhile_append_dropWhile]
  · rintro ⟨notMem, rfl⟩
    have ahead : ∀ c ∈ front, decide (c ≠ '-') = true := by
      intro c hc
      rw [decide_eq_true_eq]
      rintro rfl
      exact notMem hc
    rw [List.takeWhile_append_of_pos ahead, List.dropWhile_append_of_pos ahead]
    simp

theorem hyphen_notMem_family (mem : (member, mark) ∈ deviceMembers)
    (same : Text.sameButForCase family member = true) : '-' ∉ family.toList := by
  have hyphens : ∀ x ∈ deviceMembers, '-' ∉ x.1.toList.map Char.toUpper := by decide
  intro mem'
  refine hyphens _ mem ?_
  rw [← Text.sameButForCase_iff_map_toUpper.1 same]
  exact List.mem_map_of_mem mem'

theorem hyphen_notMem_size (number : IsNumber digits) : '-' ∉ digits.toList ++ ['F'] := by
  rw [List.mem_append, not_or]
  exact ⟨fun mem => absurd (number.2 '-' mem) (by decide), by decide⟩

theorem toList_device (family digits : String) : (family ++ "-" ++ digits ++ "F").toList =
    family.toList ++ '-' :: (digits.toList ++ ['F']) := by simp

/-- **The devices of the family, and no others, have a flag.** -/
theorem deviceFlag?_eq_some_iff : deviceFlag? device = some flag ↔
    ∃ member mark digits, (member, mark) ∈ deviceMembers ∧ IsDevice device member digits ∧
      flag = mark ++ digits ++ "k" := by
  unfold deviceFlag?
  constructor
  · intro h
    split at h
    · rename_i family size split
      obtain ⟨cells, counted, rest⟩ := Option.bind_eq_some_iff.1 h
      obtain ⟨mark, marked, written⟩ := Option.bind_eq_some_iff.1 rest
      obtain ⟨member, mem, same⟩ := familyMark?_eq_some_iff.1 marked
      obtain ⟨rfl, notEmpty, digits⟩ := cellCount?_eq_some_iff.1 counted
      obtain ⟨-, whole⟩ := span_hyphen_eq_iff.1 split
      refine ⟨member, mark, String.ofList cells, mem, ⟨String.ofList family, ?_, same, ?_, ?_⟩,
        ?_⟩
      · rw [← String.toList_inj, toList_device, whole]
        simp
      · simpa using notEmpty
      · simpa using digits
      · exact (Option.some.inj written).symm
    · cases h
  · rintro ⟨member, mark, digits, mem, ⟨family, rfl, same, number⟩, rfl⟩
    have marked := familyMark?_eq_some_iff.2 ⟨member, mem, same⟩
    have counted := cellCount?_eq_some_iff.2 ⟨(rfl : digits.toList ++ ['F'] = _),
      by simpa using number.1, number.2⟩
    have split := span_hyphen_eq_iff.2 ⟨hyphen_notMem_family mem same, toList_device family digits⟩
    rw [split]
    simp only [counted, String.ofList_toList, marked, Option.bind_eq_bind, Option.bind_some]

/-- Small letters are accepted in the family and nowhere else. -/
example : ["lfe5um-45F", "LFE5U-12f", "LFE5U-F", "LFE5U-1-2F", " LFE5U-12F"].map deviceFlag? =
    [some "um-45k", none, none, none, none] := by decide

theorem isSupported_iff : IsSupported device ↔ ∃ flag, deviceFlag? device = some flag := by
  simp only [deviceFlag?_eq_some_iff]
  constructor
  · rintro ⟨member, mark, digits, mem, isDevice⟩
    exact ⟨_, member, mark, digits, mem, isDevice, rfl⟩
  · rintro ⟨flag, member, mark, digits, mem, isDevice, -⟩
    exact ⟨member, mark, digits, mem, isDevice⟩

/-- The mark and the number are read off the flag. -/
theorem deviceFlag_inj (mem : (member, mark) ∈ deviceMembers)
    (mem' : (member', mark') ∈ deviceMembers) (number : IsNumber digits)
    (number' : IsNumber digits') (same : mark ++ digits ++ "k" = mark' ++ digits' ++ "k") :
    member = member' ∧ digits = digits' := by
  have digit : ∀ {ds : String}, IsNumber ds → ∃ c cs, ds.toList = c :: cs ∧ c ≠ 'u' := by
    intro ds h
    obtain ⟨c, cs, split⟩ := List.exists_cons_of_ne_nil (l := ds.toList) (by simpa using h.1)
    refine ⟨c, cs, split, ?_⟩
    rintro rfl
    exact absurd (h.2 'u' (split ▸ List.mem_cons_self ..)) (by decide)
  obtain ⟨c, cs, split, hc⟩ := digit number
  obtain ⟨c', cs', split', hc'⟩ := digit number'
  replace hc' := hc'.symm
  suffices member = member' ∧ digits.toList = digits'.toList by rwa [String.toList_inj] at this
  rw [split, split']
  rw [← String.toList_inj] at same
  simp only [String.toList_append, split, split'] at same
  replace same := List.append_cancel_right same
  simp only [deviceMembers, List.mem_cons, Prod.mk.injEq, List.not_mem_nil, or_false] at mem mem'
  -- a mark begins with a letter where a number begins with a digit, and the two marks differ
  rcases mem with ⟨rfl, rfl⟩ | ⟨rfl, rfl⟩ | ⟨rfl, rfl⟩ <;>
    rcases mem' with ⟨rfl, rfl⟩ | ⟨rfl, rfl⟩ | ⟨rfl, rfl⟩ <;> simp_all

end Reading

theorem SameDevice.of_isDevice {device device' member digits : String}
    (h : IsDevice device member digits) (h' : IsDevice device' member digits) :
    SameDevice device device' := by
  obtain ⟨family, rfl, same, -⟩ := h
  obtain ⟨family', rfl, same', -⟩ := h'
  refine ⟨family, family', digits ++ "F", ?_, ?_, ?_⟩
  · simp only [String.append_assoc]
  · simp only [String.append_assoc]
  · rw [Text.sameButForCase_iff_map_toUpper] at *
    rw [same, same']

/-- What differs from a device in the case of its family alone is the same device. -/
theorem SameDevice.isDevice {device device' member mark digits : String}
    (same : SameDevice device device') (mem : (member, mark) ∈ deviceMembers)
    (h : IsDevice device member digits) : IsDevice device' member digits := by
  obtain ⟨front, front', size, split, rfl, sameFront⟩ := same
  obtain ⟨family, rfl, named, number⟩ := h
  -- there is one hyphen only, so what stands in front of it is the family
  have hyphens : front = family ∧ size = digits ++ "F" := by
    rw [← String.toList_inj, toList_device] at split
    have cut : family.toList ++ '-' :: (digits.toList ++ ['F']) =
        front.toList ++ '-' :: size.toList := by simpa using split
    obtain ⟨first, -, rest⟩ := (List.append_cons_inj_of_notMem (hyphen_notMem_family mem named)
      (hyphen_notMem_size number)).1 cut
    refine ⟨String.toList_inj.1 first.symm, String.toList_inj.1 ?_⟩
    rw [← rest, String.toList_append]
    rfl
  obtain ⟨rfl, rfl⟩ := hyphens
  refine ⟨front', ?_, ?_, number⟩
  · simp only [String.append_assoc]
  · rw [Text.sameButForCase_iff_map_toUpper] at *
    rw [← sameFront, named]

/-! ### The calls of the tools -/

/-- What a tool is called with reads as the flag for a device: two hyphens, the mark of a member, a
number and a k. -/
def isDeviceFlag (arg : String) : Bool :=
  deviceMembers.any fun (_, mark) =>
    match (arg.toList.dropPrefix? ("--" ++ mark).toList).bind (·.dropSuffix? ['k']) with
    | some digits => !digits.isEmpty && digits.all Char.isDigit
    | none => false

/-- The flags for a device that a tool is called with. -/
def ToolStep.deviceFlags (s : ToolStep) : List String := s.args.filter isDeviceFlag

/-- The flags for a device in the calls of a plan, with the variables that name the tools. -/
def BuildPlan.deviceFlags (p : BuildPlan) : List (String × List String) :=
  p.steps.map fun s => (s.setting, s.deviceFlags)

theorem isDeviceFlag_of_member {member mark digits : String}
    (mem : (member, mark) ∈ deviceMembers) (number : IsNumber digits) :
    isDeviceFlag ("--" ++ (mark ++ digits ++ "k")) = true := by
  refine List.any_eq_true.2 ⟨_, mem, ?_⟩
  have split : ("--" ++ (mark ++ digits ++ "k")).toList =
      ("--" ++ mark).toList ++ (digits.toList ++ ['k']) := by simp
  simp only [split, dropPrefix?_append, Option.bind_some, dropSuffix?_append]
  simpa [IsNumber] using number

/-- Such a flag ends in a small letter. -/
theorem getLast?_of_isDeviceFlag {arg : String} (h : isDeviceFlag arg = true) :
    arg.toList.getLast? = some 'k' := by
  obtain ⟨⟨member, mark⟩, -, reads⟩ := List.any_eq_true.1 h
  simp only at reads
  split at reads
  · rename_i digits found
    obtain ⟨rest, dropped, found⟩ := Option.bind_eq_some_iff.1 found
    obtain ⟨front, split, -⟩ := List.dropPrefix?_eq_some_iff.1 dropped
    obtain ⟨back, split', same⟩ := List.dropSuffix?_eq_some_iff.1 found
    rw [split, split', eq_of_beq same, ← List.append_assoc, List.getLast?_concat]
  · cases reads

theorem isDeviceFlag_eq_false {arg : String} (h : 'k' ∉ arg.toList) : isDeviceFlag arg = false := by
  rw [← Bool.not_eq_true]
  intro flag
  exact h (List.mem_of_getLast? (getLast?_of_isDeviceFlag flag))

/-- A text in upper case has no small letter of the basic alphabet. -/
theorem Text.k_notMem_uppercase (s : String) : 'k' ∉ (uppercase s).toList := by
  have small : 'k' ∉ upperChars 'k' := by decide +kernel
  have shifts : CaseShifts.Misses upperShifts 'k'.toNat := by decide +kernel
  have expansions : ∀ x ∈ upperExpansions, 'k'.toNat ∉ x.2 := by decide +kernel
  rw [uppercase, String.toList_ofList, List.mem_flatMap]
  rintro ⟨c, -, mem⟩
  by_cases same : c = 'k'
  · exact small (same ▸ mem)
  · exact notMem_mapCase (by decide) shifts expansions same mem

section Plan

variable {environment : Dict String} {b : Board} {options : BuildOptions} {flag : String}

/-- What the tools are called with beside the device. -/
def otherArgs (b : Board) : List String :=
  Shell.fixedArgs ++ [Text.uppercase b.package, toString b.speed]

/-- None of it reads as a flag for a device, whatever the package is. -/
theorem isDeviceFlag_of_mem_otherArgs {arg : String} (h : arg ∈ otherArgs b) :
    isDeviceFlag arg = false := by
  have fixed : ∀ arg ∈ Shell.fixedArgs, isDeviceFlag arg = false := by decide
  rcases List.mem_append.1 h with h | h
  · exact fixed arg h
  · simp only [List.mem_cons, List.not_mem_nil, or_false] at h
    rcases h with rfl | rfl
    · exact isDeviceFlag_eq_false (Text.k_notMem_uppercase b.package)
    · exact isDeviceFlag_eq_false fun mem =>
        absurd (Text.isDigit_of_mem_toString mem) (by decide)

theorem filter_isDeviceFlag_of_subset {args : List String} (h : args ⊆ otherArgs b) :
    args.filter isDeviceFlag = [] :=
  List.filter_eq_nil_iff.2 fun arg harg => by simp [isDeviceFlag_of_mem_otherArgs (h harg)]

/-- Nor does what a tool is called with on demand only. -/
theorem filter_isDeviceFlag_flagIf {first : String} {rest : List String}
    (h : first :: rest ⊆ otherArgs b) (wanted : Bool) :
    (flagIf wanted first ++ rest).filter isDeviceFlag = [] := by
  obtain ⟨demanded, always⟩ := List.cons_subset.1 h
  refine filter_isDeviceFlag_of_subset (List.append_subset.2 ⟨?_, always⟩)
  have single : [first] ⊆ otherArgs b := List.cons_subset.2 ⟨demanded, List.nil_subset _⟩
  exact List.Subset.trans (Shell.flagIf_subset wanted first) single

/-- One of the tools is called with the flag for the device, once, and with no other such flag; the
others are called with none. -/
theorem deviceFlags_toolSteps (h : isDeviceFlag ("--" ++ flag) = true) :
    (toolSteps environment b options flag).map (fun s => (s.setting, s.deviceFlags)) =
      [("YOSYS", []), ("NEXTPNR_ECP5", ["--" ++ flag]), ("ECPPACK", [])] := by
  have synthesis : (flagIf (!options.verbose) "-q" ++ ["-l", "top.rpt", "top.ys"]).filter
      isDeviceFlag = [] :=
    filter_isDeviceFlag_flagIf (b := b) (by simp [otherArgs, Shell.fixedArgs]) _
  have packing : (flagIf options.verbose "--verbose" ++
      ["--input", "top.config", "--bit", "top.bit"]).filter isDeviceFlag = [] :=
    filter_isDeviceFlag_flagIf (b := b) (by simp [otherArgs, Shell.fixedArgs]) _
  have ahead : (flagIf (!options.verbose) "--quiet" ++ ["--log", "top.tim"]).filter
      isDeviceFlag = [] :=
    filter_isDeviceFlag_flagIf (b := b) (by simp [otherArgs, Shell.fixedArgs]) _
  have behind : ["--package", Text.uppercase b.package, "--speed", toString b.speed, "--json",
      "top.json", "--lpf", "top.lpf", "--textcfg", "top.config"].filter isDeviceFlag = [] :=
    filter_isDeviceFlag_of_subset (b := b) (by simp [otherArgs, Shell.fixedArgs])
  have placing : (flagIf (!options.verbose) "--quiet" ++ ["--log", "top.tim"] ++ ("--" ++ flag) ::
      ["--package", Text.uppercase b.package, "--speed", toString b.speed, "--json", "top.json",
        "--lpf", "top.lpf", "--textcfg", "top.config"]).filter isDeviceFlag = ["--" ++ flag] := by
    rw [List.filter_append, ahead, List.nil_append, List.filter_cons_of_pos h, behind]
  rw [List.append_assoc] at placing
  simp only [toolSteps, List.map_cons, List.map_nil, ToolStep.ofEnvironment, ToolStep.deviceFlags,
    synthesis, packing]
  simp only [List.cons_append, List.nil_append] at placing
  rw [placing]

end Plan

namespace Elaboration

variable {e : Elaboration} {environment : Dict String} {b : Board} {options : BuildOptions}

theorem plan_of_deviceFlag? (e : Elaboration) (environment : Dict String)
    (options : BuildOptions) {flag : String} (h : deviceFlag? b.device = some flag) :
    ∃ plan, e.plan environment b options = .ok plan ∧
      plan.steps = toolSteps environment b options flag := by
  have device : deviceFlag b.device = .ok flag := by rw [deviceFlag, h]
  unfold plan
  rw [device]
  exact ⟨_, rfl, rfl⟩

theorem plan_of_unsupported (h : ¬ IsSupported b.device) :
    e.plan environment b options = .error (.unsupportedDevice b.device) := by
  have none : deviceFlag? b.device = none := by
    rw [Option.eq_none_iff_forall_ne_some]
    exact fun flag found => h (isSupported_iff.2 ⟨flag, found⟩)
  have device : deviceFlag b.device = .error (.unsupportedDevice b.device) := by
    rw [deviceFlag, none]
  unfold plan
  rw [device]
  rfl

theorem exists_plan_iff :
    (∃ plan, e.plan environment b options = .ok plan) ↔ IsSupported b.device := by
  constructor
  · rintro ⟨plan, planned⟩
    by_contra unsupported
    rw [plan_of_unsupported unsupported] at planned
    cases planned
  · intro supported
    obtain ⟨flag, found⟩ := isSupported_iff.1 supported
    obtain ⟨plan, planned, -⟩ := plan_of_deviceFlag? e environment options found
    exact ⟨plan, planned⟩

theorem deviceFlags_plan {plan : BuildPlan} {member mark digits : String}
    (planned : e.plan environment b options = .ok plan) (mem : (member, mark) ∈ deviceMembers)
    (isDevice : IsDevice b.device member digits) : plan.deviceFlags =
      [("YOSYS", []), ("NEXTPNR_ECP5", ["--" ++ (mark ++ digits ++ "k")]), ("ECPPACK", [])] := by
  have found := deviceFlag?_eq_some_iff.2 ⟨member, mark, digits, mem, isDevice, rfl⟩
  obtain ⟨plan', planned', steps⟩ := plan_of_deviceFlag? e environment options found
  cases planned.symm.trans planned'
  obtain ⟨_, -, -, number⟩ := isDevice
  unfold BuildPlan.deviceFlags
  rw [steps]
  exact deviceFlags_toolSteps (isDeviceFlag_of_member mem number)

/-- What becomes of the device of a board when a build is planned. -/
structure PlansDevice (e : Elaboration) (environment : Dict String) (b : Board)
    (options : BuildOptions) : Prop where
  /-- There is a plan for the devices of the family, and for no others. -/
  planned : (∃ plan, e.plan environment b options = .ok plan) ↔ IsSupported b.device
  /-- Place and route is called with one flag for a device, made of the mark of the member and the
  number as it is written; the other tools are called with none. -/
  flags : ∀ plan member mark digits, e.plan environment b options = .ok plan →
    (member, mark) ∈ deviceMembers → IsDevice b.device member digits → plan.deviceFlags =
      [("YOSYS", []), ("NEXTPNR_ECP5", ["--" ++ (mark ++ digits ++ "k")]), ("ECPPACK", [])]
  /-- Any two plans have the same flags exactly if their devices are the same but for the case of
  the family. -/
  sameFlags : ∀ (e' : Elaboration) environment' b' options' plan plan',
    e.plan environment b options = .ok plan → e'.plan environment' b' options' = .ok plan' →
      (plan.deviceFlags = plan'.deviceFlags ↔ SameDevice b.device b'.device)
  /-- For any other device nothing is done, neither in preparing nor in building, and the cause of
  the failure is the device. -/
  refused : ¬ IsSupported b.device → ∀ tools t,
    (e.prepare environment b options).run t = (t, .fail (.unsupportedDevice b.device)) ∧
    (e.build environment tools b options).run t = (t, .fail (.unsupportedDevice b.device))

theorem deviceFlags_eq_iff {e' : Elaboration} {environment' : Dict String} {b' : Board}
    {options' : BuildOptions} {plan plan' : BuildPlan}
    (planned : e.plan environment b options = .ok plan)
    (planned' : e'.plan environment' b' options' = .ok plan') :
    plan.deviceFlags = plan'.deviceFlags ↔ SameDevice b.device b'.device := by
  obtain ⟨member, mark, digits, mem, isDevice⟩ := exists_plan_iff.1 ⟨plan, planned⟩
  rw [deviceFlags_plan planned mem isDevice]
  constructor
  · intro same
    obtain ⟨member', mark', digits', mem', isDevice'⟩ := exists_plan_iff.1 ⟨plan', planned'⟩
    rw [deviceFlags_plan planned' mem' isDevice'] at same
    simp only [List.cons.injEq, Prod.mk.injEq, and_true, true_and, String.append_right_inj] at same
    obtain ⟨_, -, -, number⟩ := id isDevice
    obtain ⟨_, -, -, number'⟩ := id isDevice'
    obtain ⟨rfl, rfl⟩ := deviceFlag_inj mem mem' number number' same
    exact .of_isDevice isDevice isDevice'
  · intro same
    rw [deviceFlags_plan planned' mem (same.isDevice mem isDevice)]

theorem run_prepare_of_unsupported (h : ¬ IsSupported b.device) (t : FileTree) :
    (e.prepare environment b options).run t = (t, .fail (.unsupportedDevice b.device)) := by
  rw [prepare_eq, plan_of_unsupported h]
  rfl

/-- **Only devices of the family are planned for, and each has a flag of its own.** A device whose
name is not that of a member, a hyphen, a number and the letter F leaves every file as it was. -/
theorem plansDevice (e : Elaboration) (environment : Dict String) (b : Board)
    (options : BuildOptions) : e.PlansDevice environment b options where
  planned := exists_plan_iff
  flags := fun _ _ _ _ planned mem isDevice => deviceFlags_plan planned mem isDevice
  sameFlags := fun _ _ _ _ _ _ planned planned' => deviceFlags_eq_iff planned planned'
  refused := fun unsupported tools t => by
    have prepared : (e.prepare environment b options).run t =
        (t, .fail (.unsupportedDevice b.device)) := run_prepare_of_unsupported unsupported t
    refine ⟨prepared, ?_⟩
    unfold build
    have failed : ((e.prepare environment b options).run t).2.outcome =
        .error (.unsupportedDevice b.device) := by rw [prepared]; rfl
    rw [Session.run_bind_error failed, prepared]
    rfl

end Elaboration

end SocAssembly
