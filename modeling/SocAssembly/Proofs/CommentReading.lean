import Mathlib
import SocAssembly.Text.Column

/-!
# Text without its comments

## The model

A compiler of C first joins each line that ends in a backslash with the next one (`Code.splice`);
trigraphs are not replaced, as is usual. It then goes through the text once, and where it is decides
what a character means (`Code.Place`): in code, in a comment, or in a literal, where no comment
starts. A comment counts as one blank (`Code.Place.strip`).

A comment ends at the first star that has a slash behind it. So what is put into a comment stays
there exactly if it has no such pair once its lines are joined (`Text.EndsComment`), and if it has
one, then more than a blank is left of the comment (`Code.Place.strip_comment`,
`Code.Place.lt_length_strip_comment`). However a comment went wrong, its last line leads back to
code (`Code.Place.after_comment`).
-/

namespace SocAssembly

namespace Code

/-- The text with each line that ends in a backslash joined with the next one. -/
def splice : List Char → List Char
  | '\\' :: '\n' :: cs => splice cs
  | c :: cs => c :: splice cs
  | [] => []

/-- The marks that literals stand between. -/
inductive Quote where
  /-- Around a character. -/
  | single
  /-- Around a text. -/
  | double
  deriving DecidableEq, Repr

/-- The mark itself. -/
def Quote.mark : Quote → Char
  | single => '\''
  | double => '"'

/-- Where a compiler is in a text. -/
inductive Place where
  /-- In code. -/
  | code
  /-- Behind a slash, which may start a comment. -/
  | slash
  /-- In a comment that a star and a slash end. -/
  | block
  /-- In such a comment, behind a star. -/
  | star
  /-- In a comment that ends with its line. -/
  | line
  /-- In a literal. -/
  | quoted (q : Quote)
  /-- In a literal, behind a backslash. -/
  | escaped (q : Quote)
  deriving DecidableEq, Repr

namespace Place

/-- The place behind a character of code. -/
def opened (c : Char) : Place :=
  if c = '/' then slash
  else if c = Quote.single.mark then quoted .single
  else if c = Quote.double.mark then quoted .double
  else code

/-- The place behind a character. A literal that is not closed ends with its line. -/
def next : Place → Char → Place
  | code, c => opened c
  | slash, '/' => line
  | slash, '*' => block
  | slash, c => opened c
  | block, '*' => star
  | block, _ => block
  | star, '/' => code
  | star, '*' => star
  | star, _ => block
  | line, '\n' => code
  | line, _ => line
  | quoted q, c =>
    if c = q.mark ∨ c = '\n' then code else if c = '\\' then escaped q else quoted q
  | escaped q, c => if c = '\n' then code else quoted q

/-- What is left of a character. A slash waits for the next character, and a comment leaves its
blank where it ends. -/
def kept : Place → Char → List Char
  | code, '/' => []
  | code, c => [c]
  | slash, '/' => []
  | slash, '*' => []
  | slash, c => ['/', c]
  | block, _ => []
  | star, '/' => [' ']
  | star, _ => []
  | line, '\n' => [' ', '\n']
  | line, _ => []
  | quoted _, c => [c]
  | escaped _, c => [c]

/-- What is left of a text that starts at a place. -/
def strip (p : Place) : List Char → List Char
  | [] => []
  | c :: cs => p.kept c ++ (p.next c).strip cs

/-- The place behind a text. -/
def after (p : Place) (cs : List Char) : Place := cs.foldl next p

/-- What is still to come at the end of a text. -/
def held : Place → List Char
  | slash => ['/']
  | line => [' ']
  | _ => []

end Place

/-- A text as it is once each comment was replaced by a blank. -/
def withoutComments (s : String) : List Char :=
  Place.code.strip (splice s.toList) ++ (Place.code.after (splice s.toList)).held

/-! ### Joining lines -/

theorem splice_cons {c : Char} {cs : List Char} (h : c ≠ '\\' ∨ cs.head? ≠ some '\n') :
    splice (c :: cs) = c :: splice cs := by
  refine splice.eq_2 c cs fun rest back feed => ?_
  rcases h with h | h
  · exact h back
  · rw [feed] at h
    exact h rfl

/-- Texts are joined each for itself, unless a line is joined where they meet. -/
theorem splice_append {cs ds : List Char} (h : cs.getLast? ≠ some '\\' ∨ ds.head? ≠ some '\n') :
    splice (cs ++ ds) = splice cs ++ splice ds := by
  fun_induction splice cs with
  | case1 cs ih =>
    have inner : cs.getLast? ≠ some '\\' ∨ ds.head? ≠ some '\n' := by
      refine h.imp_left fun last same => last ?_
      rw [List.getLast?_cons, List.getLast?_cons, same]
      rfl
    exact ih inner
  | case2 c cs apart ih =>
    cases cs with
    | nil =>
      refine splice_cons (h.imp_left fun last same => last ?_)
      rw [same]
      rfl
    | cons d cs =>
      have inner : (d :: cs).getLast? ≠ some '\\' ∨ ds.head? ≠ some '\n' := by
        rwa [List.getLast?_cons_cons] at h
      have front : splice (c :: (d :: cs ++ ds)) = c :: splice (d :: cs ++ ds) := by
        refine splice_cons ?_
        by_contra both
        simp only [not_or, not_not, List.cons_append, List.head?_cons, Option.some.injEq] at both
        exact apart cs both.1 (by rw [both.2])
      rw [List.cons_append, front, ih inner]
      rfl
  | case3 => rfl

/-- Joining lines brings nothing in. -/
theorem mem_of_mem_splice {c : Char} {cs : List Char} (h : c ∈ splice cs) : c ∈ cs := by
  fun_induction splice cs with
  | case1 cs ih => exact List.mem_cons_of_mem _ (List.mem_cons_of_mem _ (ih h))
  | case2 d cs _ ih =>
    rcases List.mem_cons.1 h with rfl | h
    · exact List.mem_cons_self ..
    · exact List.mem_cons_of_mem _ (ih h)
  | case3 => exact h

/-! ### What ends a comment -/

/-- What ends a comment. -/
def closing : List Char := ['*', '/']

theorem closing_infix_cons_iff {c : Char} {cs : List Char} :
    closing <:+: c :: cs ↔ (c = '*' ∧ cs.head? = some '/') ∨ closing <:+: cs := by
  unfold closing
  rw [List.infix_cons_iff, List.cons_prefix_cons]
  refine or_congr_left ?_
  cases cs with
  | nil => simp
  | cons d cs => simp [eq_comm]

/-- A character that is not in it keeps the ends of comments apart. -/
theorem closing_infix_append_cons_iff {c : Char} (star : c ≠ '*') (slash : c ≠ '/')
    {cs ds : List Char} : closing <:+: cs ++ c :: ds ↔ closing <:+: cs ∨ closing <:+: ds := by
  induction cs with
  | nil =>
    rw [List.nil_append, closing_infix_cons_iff]
    simp [star, closing]
  | cons d cs ih =>
    have head : (cs ++ c :: ds).head? = some '/' ↔ cs.head? = some '/' := by
      cases cs with
      | nil => simp [slash]
      | cons e cs => rfl
    rw [List.cons_append, closing_infix_cons_iff, ih, head, closing_infix_cons_iff, or_assoc]

/-- The text ends a comment that it is put into. -/
def Closes (cs : List Char) : Prop := closing <:+: splice cs

instance (cs : List Char) : Decidable (Closes cs) := inferInstanceAs (Decidable (_ <:+: _))

/-- A text without a slash ends no comment. -/
theorem not_closes {cs : List Char} (h : '/' ∉ cs) : ¬ Closes cs := fun closes =>
  h (mem_of_mem_splice (closes.subset (by decide)))

/-- A character that can stand between any two texts. -/
def IsDivider (c : Char) : Prop := c ∉ ['*', '/', '\\', '\n']

instance (c : Char) : Decidable (IsDivider c) := inferInstanceAs (Decidable (¬ _))

section Divided

variable {c : Char} {cs ds : List Char}

theorem IsDivider.splice_cons (h : IsDivider c) : splice (c :: cs) = c :: splice cs :=
  Code.splice_cons (Or.inl fun same => h (by simp [same]))

theorem IsDivider.closing_infix_iff (h : IsDivider c) :
    closing <:+: cs ++ c :: ds ↔ closing <:+: cs ∨ closing <:+: ds :=
  closing_infix_append_cons_iff (fun same => h (by simp [same])) (fun same => h (by simp [same]))

/-- Texts with such a character between them end a comment if one of them does. -/
theorem closes_append_cons (h : IsDivider c) :
    Closes (cs ++ c :: ds) ↔ Closes cs ∨ Closes ds := by
  have head : (c :: ds).head? ≠ some '\n' := fun same => h (by simp [Option.some.inj same])
  unfold Closes
  rw [splice_append (Or.inr head), h.splice_cons, h.closing_infix_iff]

theorem closes_cons (h : IsDivider c) : Closes (c :: cs) ↔ Closes cs := by
  have empty : ¬ Closes [] := by decide
  rw [← List.nil_append (c :: cs), closes_append_cons h, or_iff_right empty]

theorem closes_append (h : ∀ c ∈ cs, IsDivider c) : Closes (cs ++ ds) ↔ Closes ds := by
  induction cs with
  | nil => rfl
  | cons c cs ih =>
    obtain ⟨hc, hcs⟩ := List.forall_mem_cons.1 h
    exact (closes_cons hc).trans (ih hcs)

/-- Lines end a comment if one of them does, even if the first one is joined with the next. -/
theorem closes_append_lineFeed (h : ∀ c ∈ ds.head?, IsDivider c) :
    Closes (cs ++ '\n' :: ds) ↔ Closes cs ∨ Closes ds := by
  have empty : ¬ closing <:+: [] := by decide
  have start : ∀ front : List Char,
      closing <:+: front ++ splice ds ↔ closing <:+: front ∨ Closes ds := by
    intro front
    cases ds with
    | nil =>
      rw [splice, List.append_nil]
      exact (or_iff_left empty).symm
    | cons c ds =>
      have divider : IsDivider c := h c rfl
      rw [divider.splice_cons, divider.closing_infix_iff, closes_cons divider]
      rfl
  by_cases joined : cs.getLast? = some '\\'
  · obtain ⟨front, rfl⟩ := List.getLast?_eq_some_iff.1 joined
    have whole : splice (front ++ ['\\'] ++ '\n' :: ds) = splice front ++ splice ds := by
      rw [List.append_assoc]
      exact splice_append (Or.inr (by simp))
    have first : splice (front ++ ['\\']) = splice front ++ '\\' :: [] :=
      splice_append (Or.inr (by simp))
    unfold Closes
    rw [whole, start, first, closing_infix_append_cons_iff (by decide) (by decide),
      or_iff_left empty]
    rfl
  · have whole : splice (cs ++ '\n' :: ds) = splice cs ++ '\n' :: splice ds := by
      rw [splice_append (Or.inl joined), Code.splice_cons (Or.inl (by decide))]
    unfold Closes
    rw [whole, closing_infix_append_cons_iff (by decide) (by decide)]

end Divided

/-! ### Comments -/

namespace Place

theorem strip_append (p : Place) (cs ds : List Char) :
    p.strip (cs ++ ds) = p.strip cs ++ (p.after cs).strip ds := by
  induction cs generalizing p with
  | nil => rfl
  | cons c cs ih =>
    show p.kept c ++ (p.next c).strip (cs ++ ds) = _
    rw [ih, ← List.append_assoc]
    rfl

theorem after_append (p : Place) (cs ds : List Char) :
    p.after (cs ++ ds) = (p.after cs).after ds := List.foldl_append ..

/-- The last line of a comment. -/
def lastLine : List Char := " */\n".toList

/-- The last line of a comment leads back to code, from everywhere. -/
theorem after_lastLine (p : Place) : p.after lastLine = code := by
  cases p with
  | quoted q => cases q <;> decide
  | escaped q => cases q <;> decide
  | _ => decide

theorem two_le_length_strip_lastLine (p : Place) : 2 ≤ (p.strip lastLine).length := by
  cases p with
  | quoted q => cases q <;> decide
  | escaped q => cases q <;> decide
  | _ => decide

theorem next_block {c : Char} (h : c ≠ '*') : block.next c = block := by
  simp [next]

theorem next_star {c : Char} (slash : c ≠ '/') (star : c ≠ '*') : Place.star.next c = block := by
  simp [next]

theorem kept_star {c : Char} (slash : c ≠ '/') : star.kept c = [] := by
  simp [kept]

/-- Nothing is left of a text in a comment if the text does not end the comment. -/
theorem strip_eq_nil_iff (cs : List Char) :
    (block.strip cs = [] ↔ ¬ closing <:+: cs) ∧
      (star.strip cs = [] ↔ ¬ closing <:+: '*' :: cs) := by
  induction cs with
  | nil => decide
  | cons c cs ih =>
    obtain ⟨inBlock, behindStar⟩ := ih
    have fromBlock : block.strip (c :: cs) = (block.next c).strip cs := rfl
    have fromStar : star.strip (c :: cs) = star.kept c ++ (star.next c).strip cs := rfl
    by_cases hstar : c = '*'
    · subst hstar
      have twice : closing <:+: '*' :: '*' :: cs ↔ closing <:+: '*' :: cs := by
        rw [closing_infix_cons_iff]
        simp
      rw [fromBlock, fromStar, twice]
      exact ⟨behindStar, behindStar⟩
    · have alone : closing <:+: c :: cs ↔ closing <:+: cs := by
        rw [closing_infix_cons_iff]
        simp [hstar]
      rw [fromBlock, next_block hstar, alone]
      refine ⟨inBlock, ?_⟩
      rw [fromStar, closing_infix_cons_iff, alone]
      by_cases hslash : c = '/'
      · subst hslash
        simp [kept]
      · rw [kept_star hslash, next_star hslash hstar]
        simpa [hslash] using inBlock

/-- A comment of which nothing is left so far goes on. -/
theorem after_block_of_strip_eq_nil {p : Place} (inside : p = block ∨ p = star) {cs : List Char}
    (h : p.strip cs = []) : p.after cs = block ∨ p.after cs = star := by
  induction cs generalizing p with
  | nil => exact inside
  | cons c cs ih =>
    obtain ⟨kept, rest⟩ := List.append_eq_nil_iff.1 h
    refine ih ?_ rest
    by_cases hstar : c = '*'
    · rcases inside with rfl | rfl <;> exact Or.inr (by simp [next, hstar])
    · rcases inside with rfl | rfl
      · exact Or.inl (next_block hstar)
      · have hslash : c ≠ '/' := by
          rintro rfl
          cases kept
        exact Or.inl (next_star hslash hstar)

/-- What a comment is made of, around its text. -/
def comment (cs : List Char) : List Char := '/' :: '*' :: (cs ++ lastLine)

theorem strip_comment_eq (cs : List Char) : code.strip (comment cs) =
    block.strip cs ++ (block.after cs).strip lastLine :=
  strip_append block cs lastLine

/-- A comment leads back to code, whatever its text, and from everywhere. -/
theorem after_comment (p : Place) (cs : List Char) : p.after (comment cs) = code := by
  have split : comment cs = '/' :: '*' :: cs ++ lastLine := rfl
  rw [split, after_append, after_lastLine]

/-- A blank is left of a comment, and its line. -/
theorem strip_comment {cs : List Char} (h : ¬ closing <:+: cs) :
    code.strip (comment cs) = [' ', '\n'] := by
  have nothing := (strip_eq_nil_iff cs).1.2 h
  rw [strip_comment_eq, nothing]
  rcases after_block_of_strip_eq_nil (Or.inl rfl) nothing with here | here <;> rw [here] <;> decide

example : withoutComments "\"/*\" /* \" */ /\\\n/ end\n" = "\"/*\"    \n".toList := by decide

/-- More is left if the text ends the comment. -/
theorem lt_length_strip_comment {cs : List Char} (h : closing <:+: cs) :
    2 < (code.strip (comment cs)).length := by
  have some : block.strip cs ≠ [] := fun nothing => (strip_eq_nil_iff cs).1.1 nothing h
  have front := List.length_pos_of_ne_nil some
  have back := two_le_length_strip_lastLine (block.after cs)
  rw [strip_comment_eq, List.length_append]
  omega

/-- Joining lines keeps what stands around the text of a comment. -/
theorem splice_comment (cs : List Char) : splice (comment cs) = comment (splice cs) := by
  have front : splice (comment cs) = '/' :: '*' :: splice (cs ++ lastLine) := rfl
  have back : splice lastLine = lastLine := by decide
  rw [front, splice_append (Or.inr (by decide)), back]
  rfl

/-- Code goes on if no character leads out of it. -/
theorem after_code {cs : List Char} (h : ∀ c ∈ cs, code.next c = code) : code.after cs = code := by
  induction cs with
  | nil => rfl
  | cons c cs ih =>
    obtain ⟨hc, hcs⟩ := List.forall_mem_cons.1 h
    show (code.next c).after cs = code
    rw [hc]
    exact ih hcs

end Place

/-- Nothing in the text starts a comment or a literal. -/
def IsQuiet (s : String) : Prop := '/' ∉ s.toList ∧ '\'' ∉ s.toList ∧ '"' ∉ s.toList

instance (s : String) : Decidable (IsQuiet s) := inferInstanceAs (Decidable (_ ∧ _))

theorem isQuiet_append {s t : String} : IsQuiet (s ++ t) ↔ IsQuiet s ∧ IsQuiet t := by
  unfold IsQuiet
  rw [String.toList_append]
  simp only [List.mem_append, not_or]
  tauto

/-- A quiet text stays in code. -/
theorem after_of_isQuiet {s : String} (h : IsQuiet s) :
    Place.code.after (splice s.toList) = .code := by
  obtain ⟨slash, single, double⟩ := h
  refine Place.after_code fun c hc => ?_
  have mem := mem_of_mem_splice hc
  have other : c ≠ '/' ∧ c ≠ '\'' ∧ c ≠ '"' :=
    ⟨fun same => slash (same ▸ mem), fun same => single (same ▸ mem),
      fun same => double (same ▸ mem)⟩
  simp [Place.next, Place.opened, Quote.mark, other]

end Code

namespace Text

/-- The text ends a comment that it is put into. -/
def EndsComment (s : String) : Prop := Code.Closes s.toList

instance (s : String) : Decidable (EndsComment s) := inferInstanceAs (Decidable (Code.Closes _))

theorem not_endsComment_of_isQuiet {s : String} (h : Code.IsQuiet s) : ¬ EndsComment s :=
  Code.not_closes h.1

/-- A text that can stand between any two texts, or in front of one. -/
def IsDivider (k : String) : Prop := ∀ c ∈ k.toList, Code.IsDivider c

instance (k : String) : Decidable (IsDivider k) := List.decidableBAll _ _

theorem endsComment_append {k s : String} (h : IsDivider k) :
    EndsComment (k ++ s) ↔ EndsComment s := by
  unfold EndsComment
  rw [String.toList_append, Code.closes_append h]

theorem endsComment_divided {s k t : String} (h : IsDivider k) (some : k ≠ "") :
    EndsComment (s ++ (k ++ t)) ↔ EndsComment s ∨ EndsComment t := by
  have inner := endsComment_append (s := t) h
  obtain ⟨c, cs, start⟩ := List.exists_cons_of_ne_nil (String.toList_eq_nil_iff.not.2 some)
  unfold EndsComment at inner ⊢
  have hc : Code.IsDivider c := h c (by rw [start]; exact List.mem_cons_self ..)
  rw [String.toList_append, start, List.cons_append, Code.closes_cons hc] at inner
  rw [String.toList_append, String.toList_append, start, List.cons_append,
    Code.closes_append_cons hc, inner]

end Text

end SocAssembly
