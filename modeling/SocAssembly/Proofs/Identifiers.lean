import Mathlib
import SocAssembly.Text.Identifier
import SocAssembly.Proofs.CaseMapping
import SocAssembly.Proofs.Splitting

/-!
# Which names give one identifier

An identifier is made of the words of a name. A case mapping makes no underscore of a letter or
numeral and drops none, so the underscores of an identifier show where its words meet, and two names
give one identifier exactly if their words are the same but for case (`Text.identifier_eq_iff`).
What separates the words of a name, and the case of its letters, is lost. Names that are written
like the identifiers of a linker script already (`Text.IsPlain`) lose nothing: different ones have
different identifiers in both forms (`Text.IsPlain.identifier_injective`).
-/

namespace SocAssembly.Text

/-! ### Images of words -/

/-- The word that an identifier of this form has for a word of a name. -/
def IdentifierForm.image : IdentifierForm → List Char → List Char
  | macroName => upperWord
  | regionName => lowerWord

theorem identifier_eq (form : IdentifierForm) (s : String) :
    identifier form s = joinWords form.image (nameWords s) := by
  cases form <;> rfl

theorem IsMark.notMem_lowerWord {d : Char} (hd : IsMark d) {w : List Char} (h : d ∉ w) :
    d ∉ lowerWord w := by
  fun_induction lowerWord w with
  | case1 => exact h
  | case2 =>
    rw [List.mem_singleton]
    rintro rfl
    exact absurd hd (by decide)
  | case3 c rest notFinal ih =>
    rw [List.mem_cons, not_or] at h
    rw [List.mem_append, not_or]
    exact ⟨hd.notMem_lowerChars (Ne.symm h.1), ih h.2⟩

/-- The image of a word has the marks of the word at most. -/
theorem IsMark.notMem_image {d : Char} (hd : IsMark d) (form : IdentifierForm) {w : List Char}
    (h : d ∉ w) : d ∉ form.image w := by
  cases form with
  | regionName => exact hd.notMem_lowerWord h
  | macroName =>
    intro mem
    obtain ⟨c, hc, mem⟩ := List.mem_flatMap.1 mem
    exact hd.notMem_upperChars (fun same => h (same ▸ hc)) mem

theorem image_ne_nil (form : IdentifierForm) {w : List Char} (h : w ≠ []) : form.image w ≠ [] := by
  cases form with
  | macroName =>
    obtain ⟨c, rest, rfl⟩ := List.exists_cons_of_ne_nil h
    exact List.append_ne_nil_of_left_ne_nil (upperChars_ne_nil c) _
  | regionName =>
    show lowerWord w ≠ []
    fun_cases lowerWord w with
    | case1 => exact h
    | case2 => exact List.cons_ne_nil _ _
    | case3 c rest notFinal => exact List.append_ne_nil_of_left_ne_nil (lowerChars_ne_nil c) _

/-! ### Words -/

/-- The words of a stretch are not empty and have only characters of the stretch. -/
theorem mem_cutAtCase {seen : WordCase} {word cs w : List Char}
    (started : seen = .capital → word ≠ []) (h : w ∈ cutAtCase seen word cs) :
    w ≠ [] ∧ ∀ c ∈ w, c ∈ word ∨ c ∈ cs := by
  fun_induction cutAtCase seen word cs with
  | case1 seen word empty => cases h
  | case2 seen word notEmpty =>
    rw [List.mem_singleton] at h
    rw [h]
    exact ⟨by simpa using notEmpty, fun c hc => Or.inl (List.mem_reverse.1 hc)⟩
  | case3 seen word last =>
    rw [List.mem_singleton] at h
    rw [h]
    refine ⟨by simp, fun c hc => ?_⟩
    rcases List.mem_cons.1 (List.mem_reverse.1 hc) with rfl | hc
    · exact Or.inr (List.mem_singleton_self _)
    · exact Or.inl hc
  | case4 seen word c next rest ends ih =>
    -- the word ends behind `c`
    rcases List.mem_cons.1 h with rfl | h
    · refine ⟨by simp, fun d hd => ?_⟩
      rcases List.mem_cons.1 (List.mem_reverse.1 hd) with rfl | hd
      · exact Or.inr (List.mem_cons_self ..)
      · exact Or.inl hd
    · obtain ⟨notEmpty, mem⟩ := ih (by simp) h
      refine ⟨notEmpty, fun d hd => Or.inr (List.mem_cons_of_mem _ ?_)⟩
      exact (mem d hd).resolve_left (List.not_mem_nil)
  | case5 seen word c next rest goesOn ends ih =>
    -- the word ends in front of `c`
    rcases List.mem_cons.1 h with rfl | h
    · simp only [Bool.and_eq_true, decide_eq_true_eq] at ends
      exact ⟨by simpa using started ends.1.1, fun d hd => Or.inl (List.mem_reverse.1 hd)⟩
    · obtain ⟨notEmpty, mem⟩ := ih (by simp) h
      refine ⟨notEmpty, fun d hd => Or.inr ?_⟩
      rcases mem d hd with hd | hd
      · exact List.mem_cons.2 (Or.inl (List.mem_singleton.1 hd))
      · exact List.mem_cons_of_mem _ hd
  | case6 seen word c next rest goesOn goesOn' ih =>
    obtain ⟨notEmpty, mem⟩ := ih (by simp) h
    refine ⟨notEmpty, fun d hd => ?_⟩
    rcases mem d hd with hd | hd
    · rcases List.mem_cons.1 hd with rfl | hd
      · exact Or.inr (List.mem_cons_self ..)
      · exact Or.inl hd
    · exact Or.inr (List.mem_cons_of_mem _ hd)

/-- The words of a name are not empty and have letters and numerals only. -/
theorem mem_nameWords {s : String} {w : List Char} (h : w ∈ nameWords s) :
    w ≠ [] ∧ ∀ c ∈ w, isAlphanumeric c = true := by
  obtain ⟨stretch, hstretch, hw⟩ := List.mem_flatMap.1 h
  obtain ⟨notEmpty, mem⟩ := mem_cutAtCase (by simp) hw
  refine ⟨notEmpty, fun c hc => ?_⟩
  have inside := (mem c hc).resolve_left List.not_mem_nil
  simpa using (of_mem_splitOnP hstretch c inside).2

/-- Marks separate words and are dropped. -/
theorem IsMark.notMem_of_mem_nameWords {d : Char} (hd : IsMark d) {s : String} {w : List Char}
    (h : w ∈ nameWords s) : d ∉ w := by
  have none : ∀ n ∈ markCodes, isAlphanumeric (Char.ofNat n) = false := by decide +kernel
  intro mem
  have := none _ hd
  rw [Char.ofNat_toNat, (mem_nameWords h).2 d mem] at this
  cases this

/-! ### Joining -/

/-- Words without underscores can be told from each other when they are joined. -/
theorem filter_splitOn_intercalate {ws : List (List Char)} (h : ∀ w ∈ ws, w ≠ [] ∧ '_' ∉ w) :
    ((['_'].intercalate ws).splitOn '_').filter (· ≠ []) = ws := by
  cases ws with
  | nil => rfl
  | cons w rest =>
    rw [List.splitOn_intercalate '_' (fun v hv => (h v hv).2) (List.cons_ne_nil _ _)]
    exact List.filter_eq_self.2 fun v hv => decide_eq_true (h v hv).1

theorem toList_joinWords (image : List Char → List Char) (ws : List (List Char)) :
    (joinWords image ws).toList = ['_'].intercalate (ws.map image) := by
  unfold joinWords
  rw [String.toList_intercalate, List.map_map]
  simp [Function.comp_def]

/-- An identifier determines the words that it is joined of. -/
theorem words_of_identifier (form : IdentifierForm) (s : String) :
    ((identifier form s).toList.splitOn '_').filter (· ≠ []) =
      (nameWords s).map form.image := by
  have underscore : IsMark '_' := by decide
  rw [identifier_eq, toList_joinWords]
  refine filter_splitOn_intercalate fun v hv => ?_
  obtain ⟨w, hw, rfl⟩ := List.mem_map.1 hv
  exact ⟨image_ne_nil form (mem_nameWords hw).1,
    underscore.notMem_image form (underscore.notMem_of_mem_nameWords hw)⟩

/-- Underscores are the only marks of an identifier. -/
theorem IsMark.notMem_identifier {d : Char} (hd : IsMark d) (hne : d ≠ '_') (form : IdentifierForm)
    (s : String) : d ∉ (identifier form s).toList := by
  rw [identifier_eq, toList_joinWords]
  have inWords : ∀ v ∈ (nameWords s).map form.image, d ∉ v := by
    intro v hv
    obtain ⟨w, hw, rfl⟩ := List.mem_map.1 hv
    exact hd.notMem_image form (hd.notMem_of_mem_nameWords hw)
  cases words : (nameWords s).map form.image with
  | nil => exact List.not_mem_nil
  | cons v rest =>
    rw [words] at inWords
    rw [intercalate_cons]
    intro mem
    rcases List.mem_append.1 mem with mem | mem
    · exact inWords v (List.mem_cons_self ..) mem
    · obtain ⟨u, hu, mem⟩ := List.mem_flatMap.1 mem
      rcases List.mem_cons.1 mem with same | mem
      · exact hne same
      · exact inWords u (List.mem_cons_of_mem v hu) mem

/-- Two names give one identifier exactly if their words are the same but for case. -/
theorem identifier_eq_iff {form : IdentifierForm} {s t : String} :
    identifier form s = identifier form t ↔
      (nameWords s).map form.image = (nameWords t).map form.image := by
  constructor
  · intro same
    rw [← words_of_identifier, ← words_of_identifier, same]
  · intro same
    rw [← String.toList_inj, identifier_eq, identifier_eq, toList_joinWords, toList_joinWords, same]

/-! ### Plain names -/

/-- The character is a small letter or a digit of the basic alphabet. -/
def isPlainChar (c : Char) : Bool := c.isLower || c.isDigit

/-- The code points of the small letters and digits of the basic alphabet. -/
def plainCodes : List Nat := List.range' 0x61 26 ++ List.range' 0x30 10

/-- What holds of the small letters and digits can be tried out. -/
theorem forall_plain {P : Char → Prop} (h : ∀ n ∈ plainCodes, P (Char.ofNat n)) {c : Char}
    (hc : isPlainChar c = true) : P c := by
  rw [← Char.ofNat_toNat c]
  refine h _ ?_
  simp only [isPlainChar, Char.isLower, Char.isDigit, Bool.or_eq_true, Bool.and_eq_true,
    decide_eq_true_eq, ge_iff_le, UInt32.le_iff_toNat_le] at hc
  simp only [plainCodes, List.mem_append, List.mem_range'_1]
  have : c.toNat = c.val.toNat := rfl
  have : 'a'.val.toNat = 0x61 := rfl
  have : 'z'.val.toNat = 0x7A := rfl
  have : '0'.val.toNat = 0x30 := rfl
  have : '9'.val.toNat = 0x39 := rfl
  omega

theorem isAlphanumeric_of_plain {c : Char} (hc : isPlainChar c = true) :
    isAlphanumeric c = true :=
  forall_plain (P := fun c => isAlphanumeric c = true) (by decide +kernel) hc

theorem isUppercase_of_plain {c : Char} (hc : isPlainChar c = true) : isUppercase c = false :=
  forall_plain (P := fun c => isUppercase c = false) (by decide +kernel) hc

theorem lowerChars_of_plain {c : Char} (hc : isPlainChar c = true) : lowerChars c = [c] :=
  forall_plain (P := fun c => lowerChars c = [c]) (by decide +kernel) hc

theorem upperChars_of_plain {c : Char} (hc : isPlainChar c = true) : upperChars c = [c.toUpper] :=
  forall_plain (P := fun c => upperChars c = [c.toUpper]) (by decide +kernel) hc

theorem toUpper_inj_of_plain {c d : Char} (hc : isPlainChar c = true) (hd : isPlainChar d = true)
    (same : c.toUpper = d.toUpper) : c = d := by
  have all : ∀ n ∈ plainCodes, ∀ m ∈ plainCodes,
      (Char.ofNat n).toUpper = (Char.ofNat m).toUpper → Char.ofNat n = Char.ofNat m := by
    decide +kernel
  refine forall_plain (P := fun c => c.toUpper = d.toUpper → c = d) (fun n hn => ?_) hc same
  exact forall_plain (P := fun d => (Char.ofNat n).toUpper = d.toUpper → Char.ofNat n = d)
    (all n hn) hd

/-- The name is written like an identifier: words of small letters and digits, with one underscore
between any two. -/
def IsPlain (s : String) : Prop :=
  ∃ ws : List (List Char), (∀ w ∈ ws, w ≠ [] ∧ ∀ c ∈ w, isPlainChar c = true) ∧
    s.toList = ['_'].intercalate ws

/-- A stretch without capitals is one word. -/
theorem cutAtCase_of_noCapital {seen : WordCase} {word cs : List Char} (small : seen ≠ .capital)
    (h : ∀ c ∈ cs, isUppercase c = false) (notEmpty : word ≠ [] ∨ cs ≠ []) :
    cutAtCase seen word cs = [word.reverse ++ cs] := by
  fun_induction cutAtCase seen word cs with
  | case1 seen word empty => simp_all
  | case2 seen word more => simp
  | case3 seen word c => simp
  | case4 seen word c next rest ends ih => simp_all
  | case5 seen word c next rest goesOn ends ih => simp_all
  | case6 seen word c next rest goesOn goesOn' ih =>
    have step : seen.step c ≠ .capital := by
      rw [WordCase.step, h c (List.mem_cons_self ..)]
      split
      · simp
      · simpa using small
    rw [ih step (fun d hd => h d (List.mem_cons_of_mem _ hd)) (Or.inl (List.cons_ne_nil _ _))]
    simp

/-- The words of a plain name are what stands between its underscores. -/
theorem nameWords_of_plain {s : String} {ws : List (List Char)}
    (h : ∀ w ∈ ws, w ≠ [] ∧ ∀ c ∈ w, isPlainChar c = true) (hs : s.toList = ['_'].intercalate ws) :
    nameWords s = ws := by
  unfold nameWords
  rw [hs]
  by_cases none : ws = []
  · rw [none]
    rfl
  · have stretches : (['_'].intercalate ws).splitOnP (fun c => !isAlphanumeric c) = ws := by
      refine splitOnP_intercalate (by decide) (fun w hw c hc => ?_) none
      rw [isAlphanumeric_of_plain ((h w hw).2 c hc)]
      rfl
    have cut : ∀ w ∈ ws, cutAtCase .none [] w = [w] := fun w hw =>
      cutAtCase_of_noCapital (by simp) (fun c hc => isUppercase_of_plain ((h w hw).2 c hc))
        (Or.inr (h w hw).1)
    rw [stretches, List.flatMap_congr cut, List.flatMap_singleton']

theorem lowerWord_of_plain {w : List Char} (h : ∀ c ∈ w, isPlainChar c = true) :
    lowerWord w = w := by
  fun_induction lowerWord w with
  | case1 => rfl
  | case2 => exact absurd (h 'Σ' (List.mem_singleton_self _)) (by decide)
  | case3 c rest notFinal ih =>
    obtain ⟨hc, hrest⟩ := List.forall_mem_cons.1 h
    rw [lowerChars_of_plain hc, ih hrest, List.singleton_append]

theorem upperWord_of_plain {w : List Char} (h : ∀ c ∈ w, isPlainChar c = true) :
    upperWord w = w.map Char.toUpper := by
  rw [upperWord, List.flatMap_congr fun c hc => upperChars_of_plain (h c hc),
    ← List.map_eq_flatMap]

theorem eq_of_map_eq {α β : Type} {f : α → β} {P : α → Prop}
    (inj : ∀ a b, P a → P b → f a = f b → a = b) {xs ys : List α} (hxs : ∀ x ∈ xs, P x)
    (hys : ∀ y ∈ ys, P y) (same : xs.map f = ys.map f) : xs = ys := by
  induction xs generalizing ys with
  | nil => exact (List.map_eq_nil_iff.1 same.symm).symm
  | cons x xs ih =>
    cases ys with
    | nil => cases same
    | cons y ys =>
      obtain ⟨hx, hxs⟩ := List.forall_mem_cons.1 hxs
      obtain ⟨hy, hys⟩ := List.forall_mem_cons.1 hys
      obtain ⟨head, tail⟩ := List.cons.inj same
      rw [inj x y hx hy head, ih hxs hys tail]

/-- No two plain words have one image. -/
theorem image_inj_of_plain (form : IdentifierForm) {w v : List Char}
    (hw : ∀ c ∈ w, isPlainChar c = true) (hv : ∀ c ∈ v, isPlainChar c = true)
    (same : form.image w = form.image v) : w = v := by
  cases form with
  | macroName =>
    change upperWord w = upperWord v at same
    rw [upperWord_of_plain hw, upperWord_of_plain hv] at same
    exact eq_of_map_eq (fun _ _ => toUpper_inj_of_plain) hw hv same
  | regionName =>
    change lowerWord w = lowerWord v at same
    rwa [lowerWord_of_plain hw, lowerWord_of_plain hv] at same

/-- Different plain names have different identifiers. -/
theorem IsPlain.identifier_injective (form : IdentifierForm) {s t : String} (hs : IsPlain s)
    (ht : IsPlain t) (same : identifier form s = identifier form t) : s = t := by
  obtain ⟨ws, hws, hs⟩ := hs
  obtain ⟨vs, hvs, ht⟩ := ht
  rw [identifier_eq_iff, nameWords_of_plain hws hs, nameWords_of_plain hvs ht] at same
  have words : ws = vs := eq_of_map_eq (fun _ _ => image_inj_of_plain form)
    (fun w hw => (hws w hw).2) (fun v hv => (hvs v hv).2) same
  rw [← String.toList_inj, hs, ht, words]

end SocAssembly.Text
