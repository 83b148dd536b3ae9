import Mathlib.Data.List.Basic
import NodeDevices.Proofs.Text.Blank
import NodeDevices.Text.Split
import NodeDevices.Text.Substring

/-! Texts with places that are left for a value. To replace each occurrence of a text is to fill
such a template, whose places are where the occurrences were. What a template becomes tells the
value, if there is a place at all, since its length tells the length of the value.
-/

namespace NodeDevices.Text

/-- A text in which some places are left for a value. -/
abbrev Template := List (Option Char)

/-- The text that a template becomes when a value is put into each of its places. -/
def fill (value : List Char) (template : Template) : List Char :=
  template.flatMap fun place => place.elim value ([·])

-----------------------------------------------------------------------------------------
-- What a filled template tells of the value
-----------------------------------------------------------------------------------------

section Filling

variable {value other : List Char} {template : Template}

@[simp]
theorem fill_nil (value : List Char) : fill value [] = [] :=
  rfl

@[simp]
theorem fill_place (value : List Char) (template : Template)
    : fill value (none :: template) = value ++ fill value template :=
  rfl

@[simp]
theorem fill_char (value : List Char) (c : Char) (template : Template)
    : fill value (some c :: template) = c :: fill value template :=
  rfl

theorem fill_append (value : List Char) (first second : Template)
    : fill value (first ++ second) = fill value first ++ fill value second :=
  List.flatMap_append

/-- A text without places becomes itself. -/
theorem fill_map_some (value text : List Char) : fill value (text.map some) = text := by
  induction text with
  | nil => rfl
  | cons c rest ih => rw [List.map_cons, fill_char, ih]

/-- A template without places is a text. -/
theorem eq_map_of_notMem (placeless : none ∉ template) (value : List Char)
    : template = (fill value template).map some := by
  induction template with
  | nil => rfl
  | cons place template ih =>
      obtain ⟨filled, later⟩ := not_or.mp (mt List.mem_cons.mpr placeless)
      cases place with
      | none => exact absurd rfl filled
      | some c => rw [fill_char, List.map_cons, ← ih later]

theorem fill_eq_of_notMem (placeless : none ∉ template) (value other : List Char)
    : fill value template = fill other template := by
  rw [eq_map_of_notMem placeless value, fill_map_some, fill_map_some]

/-- The length of what is filled in counts once for every place. -/
theorem length_fill (value : List Char) (template : Template)
    : (fill value template).length
      = template.countP Option.isSome + template.count none * value.length := by
  induction template with
  | nil => simp
  | cons place template ih =>
      cases place with
      | none => simp [ih, Nat.succ_mul]; omega
      | some c => simp [ih]; omega

/-- What a template with a place becomes tells the value that was put there: the two values are of
one length, and the same text stands before the first place.
-/
theorem fill_injective (placed : none ∈ template)
    (same : fill value template = fill other template)
    : value = other := by
  have long : value.length = other.length := by
    have lengths := congrArg List.length same
    rw [length_fill, length_fill] at lengths
    have places : 0 < template.count none := List.count_pos_iff.mpr placed
    exact Nat.eq_of_mul_eq_mul_left places (by omega)
  induction template with
  | nil => exact absurd placed List.not_mem_nil
  | cons place template ih =>
      cases place with
      | none => exact (List.append_inj same long).1
      | some c =>
          have later : none ∈ template := by simpa using placed
          exact ih later (List.cons.inj same).2

/-- A value is part of what it is put into. -/
theorem infix_fill (placed : none ∈ template) : value <:+: fill value template := by
  obtain ⟨before, after, rfl⟩ := List.append_of_mem placed
  refine ⟨fill value before, fill value after, ?_⟩
  rw [fill_append, fill_place, List.append_assoc]

end Filling

-----------------------------------------------------------------------------------------
-- Replacing
-----------------------------------------------------------------------------------------

/-- One pass over a text from the left, which leaves a place for each occurrence of a part that it
comes to, and goes on behind it.
-/
inductive Scan (part : List Char) : List Char → Template → Prop
  | nil : Scan part [] []
  | hit {rest template} (scanned : Scan part rest template)
    : Scan part (part ++ rest) (none :: template)
  | skip {c rest template} (other : ¬ part <+: c :: rest) (scanned : Scan part rest template)
    : Scan part (c :: rest) (some c :: template)

section Replacing

variable {part value text rest : List Char} {template : Template}

/-- A part that starts a text ends before a character that is none of its own. -/
theorem prefix_of_foreign {before after : List Char} {c : Char} (foreign : c ∉ part)
    (starts : part <+: before ++ c :: after)
    : part <+: before := by
  have upTo : before ++ [c] <+: before ++ c :: after := ⟨after, by simp⟩
  rcases List.prefix_or_prefix_of_prefix starts upTo with within | across
  · rcases List.prefix_concat_iff.mp within with whole | shorter
    · exact absurd (whole ▸ List.mem_concat_self) foreign
    · exact shorter
  · exact absurd (across.subset List.mem_concat_self) foreign

/-- A part is found behind characters that are none of its own. -/
theorem infix_of_foreign (nonempty : part ≠ []) (foreign : ∀ c ∈ value, c ∉ part)
    (found : part <:+: value ++ rest)
    : part <:+: rest := by
  induction value with
  | nil => exact found
  | cons c value ih =>
      obtain ⟨apart, others⟩ := List.forall_mem_cons.mp foreign
      rcases List.infix_cons_iff.mp found with starts | later
      · obtain ⟨d, run, rfl⟩ := List.exists_cons_of_ne_nil nonempty
        obtain ⟨rfl, _⟩ := List.cons_prefix_cons.mp starts
        exact absurd List.mem_cons_self apart
      · exact ih others later

/-- A replacement passes over an occurrence once it has found it. -/
theorem replaceFrom_length (part value skipped rest : List Char)
    : replaceFrom part value skipped.length (skipped ++ rest) = replaceFrom part value 0 rest := by
  induction skipped with
  | nil => rfl
  | cons c skipped ih => exact ih

theorem exists_scan (nonempty : part ≠ []) (text : List Char)
    : ∃ template, Scan part text template := by
  induction size : text.length using Nat.strong_induction_on generalizing text with
  | _ _ ih =>
      subst size
      by_cases found : part <+: text
      · obtain ⟨rest, rfl⟩ := found
        have shorter : rest.length < (part ++ rest).length := by
          have := List.length_pos_iff.mpr nonempty
          rw [List.length_append]
          omega
        obtain ⟨template, scanned⟩ := ih _ shorter rest rfl
        exact ⟨_, scanned.hit⟩
      · cases text with
        | nil => exact ⟨_, .nil⟩
        | cons c rest =>
            obtain ⟨template, scanned⟩ := ih _ (Nat.lt_succ_self _) rest rfl
            exact ⟨_, scanned.skip found⟩

namespace Scan

/-- To replace a part of a text is to fill the places of its occurrences. -/
theorem replace_eq (nonempty : part ≠ []) (scanned : Scan part text template)
    : replace part value text = fill value template := by
  unfold replace
  induction scanned with
  | nil => rfl
  | @hit rest template scanned ih =>
      obtain ⟨c, others, rfl⟩ := List.exists_cons_of_ne_nil nonempty
      have found : (c :: others).isPrefixOf (c :: (others ++ rest)) = true :=
        List.isPrefixOf_iff_prefix.mpr ⟨rest, rfl⟩
      rw [List.cons_append, replaceFrom, if_pos found, List.length_cons, Nat.add_sub_cancel,
        replaceFrom_length, ih, fill_place]
  | skip other scanned ih =>
      rw [replaceFrom, if_neg (mt List.isPrefixOf_iff_prefix.mp other), ih, fill_char]

/-- Filled with the part itself, the template is the text again. -/
theorem fill_part (scanned : Scan part text template) : fill part template = text := by
  induction scanned with
  | nil => rfl
  | hit scanned ih => rw [fill_place, ih]
  | skip other scanned ih => rw [fill_char, ih]

/-- What stands before the first place is where it was. -/
theorem prefix_of_map {run : List Char} (scanned : Scan part text template)
    (starts : run.map some <+: template)
    : run <+: text := by
  induction scanned generalizing run with
  | nil => simpa using starts
  | hit scanned ih =>
      cases run with
      | nil => exact List.nil_prefix
      | cons c run => cases (List.cons_prefix_cons.mp starts).1
  | skip other scanned ih =>
      cases run with
      | nil => exact List.nil_prefix
      | cons c run =>
          obtain ⟨same, later⟩ := List.cons_prefix_cons.mp starts
          exact List.cons_prefix_cons.mpr ⟨Option.some.inj same, ih later⟩

/-- No occurrence is left between the places. -/
theorem not_occurs (nonempty : part ≠ []) (scanned : Scan part text template)
    : ¬ part.map some <:+: template := by
  have filled : part.map some ≠ [] := by simpa using nonempty
  induction scanned with
  | nil => simpa using filled
  | hit scanned ih =>
      intro found
      rcases List.infix_cons_iff.mp found with starts | later
      · obtain ⟨c, others, rfl⟩ := List.exists_cons_of_ne_nil nonempty
        cases (List.cons_prefix_cons.mp starts).1
      · exact ih later
  | skip other scanned ih =>
      intro found
      rcases List.infix_cons_iff.mp found with starts | later
      · exact other ((scanned.skip other).prefix_of_map starts)
      · exact ih later

/-- A run of the template in which the part was has a place. -/
theorem place_mem_of_occurs {run : Template} (nonempty : part ≠ [])
    (scanned : Scan part text template) (within : run <:+: template)
    (found : part <:+: fill part run)
    : none ∈ run := by
  by_contra placeless
  apply scanned.not_occurs nonempty
  rw [eq_map_of_notMem placeless part] at within
  exact (found.map some).trans within

/-- A part that occurs leaves a place. -/
theorem place_mem (nonempty : part ≠ []) (scanned : Scan part text template)
    (found : part <:+: text)
    : none ∈ template := by
  apply scanned.place_mem_of_occurs nonempty List.infix_rfl
  rwa [scanned.fill_part]

/-- The part does not start at a character that is none of its own. -/
theorem cons_of_foreign {c : Char} (nonempty : part ≠ []) (foreign : c ∉ part)
    (scanned : Scan part rest template)
    : Scan part (c :: rest) (some c :: template) := by
  apply scanned.skip
  intro starts
  have within : part <+: [] := prefix_of_foreign foreign starts
  exact nonempty (List.prefix_nil.mp within)

/-- Behind a text in which the part does not occur, the pass goes as it goes alone, if the part
cannot reach across: the character that follows is none of its own.
-/
theorem behind {start : List Char} {c : Char} (foreign : c ∉ part)
    (unmarked : ¬ part <:+: start) (scanned : Scan part (c :: rest) template)
    : Scan part (start ++ c :: rest) (start.map some ++ template) := by
  induction start with
  | nil => exact scanned
  | cons d start ih =>
      have later : ¬ part <:+: start := mt List.infix_cons unmarked
      refine .skip ?_ (ih later)
      intro starts
      exact unmarked (prefix_of_foreign foreign starts).isInfix

end Scan

/-- What is filled starts with a run only where the template does, if the value has no character of
the run.
-/
theorem map_prefix_of_prefix_fill {run : List Char} (filled : value ≠ [])
    (foreign : ∀ c ∈ value, c ∉ run) (starts : run <+: fill value template)
    : run.map some <+: template := by
  induction template generalizing run with
  | nil => simpa using starts
  | cons place template ih =>
      cases run with
      | nil => exact List.nil_prefix
      | cons c run =>
          cases place with
          | none =>
              obtain ⟨d, others, rfl⟩ := List.exists_cons_of_ne_nil filled
              obtain ⟨rfl, _⟩ := List.cons_prefix_cons.mp starts
              exact absurd List.mem_cons_self (foreign c List.mem_cons_self)
          | some d =>
              obtain ⟨rfl, later⟩ := List.cons_prefix_cons.mp starts
              have apart : ∀ d ∈ value, d ∉ run :=
                fun d member own => foreign d member (List.mem_cons_of_mem c own)
              exact List.cons_prefix_cons.mpr ⟨rfl, ih apart later⟩

/-- What is filled has an occurrence of a part only where the template has one, if the value has no
character of the part.
-/
theorem map_infix_of_infix_fill (nonempty : part ≠ []) (filled : value ≠ [])
    (foreign : ∀ c ∈ value, c ∉ part) (found : part <:+: fill value template)
    : part.map some <:+: template := by
  induction template with
  | nil => simpa using found
  | cons place template ih =>
      cases place with
      | none => exact List.infix_cons (ih (infix_of_foreign nonempty foreign found))
      | some c =>
          rw [fill_char] at found
          rcases List.infix_cons_iff.mp found with starts | later
          · rw [← fill_char] at starts
            exact (map_prefix_of_prefix_fill filled foreign starts).isInfix
          · exact List.infix_cons (ih later)

/-- Replacing leaves no occurrence of the part, if the value has no character of it. -/
theorem not_infix_replace (nonempty : part ≠ []) (filled : value ≠ [])
    (foreign : ∀ c ∈ value, c ∉ part) (text : List Char)
    : ¬ part <:+: replace part value text := by
  obtain ⟨template, scanned⟩ := exists_scan nonempty text
  rw [scanned.replace_eq nonempty]
  exact mt (map_infix_of_infix_fill nonempty filled foreign) (scanned.not_occurs nonempty)

end Replacing

-----------------------------------------------------------------------------------------
-- Passes over a filled template
-----------------------------------------------------------------------------------------

section Passes

variable {value : List Char} {class? : Char → Bool}

/-- A value in the class never ends a run of the class. -/
theorem takeWhile_fill (inside : ∀ c ∈ value, class? c = true) (template : Template)
    : (fill value template).takeWhile class?
      = fill value (template.takeWhile (·.all class?)) := by
  induction template with
  | nil => rfl
  | cons place template ih =>
      cases place with
      | none => simp [List.takeWhile_append_of_pos inside, ih]
      | some c => cases found : class? c <;> simp [found, ih]

theorem dropWhile_fill (inside : ∀ c ∈ value, class? c = true) (template : Template)
    : (fill value template).dropWhile class?
      = fill value (template.dropWhile (·.all class?)) := by
  induction template with
  | nil => rfl
  | cons place template ih =>
      cases place with
      | none => simp [List.dropWhile_append_of_pos inside, ih]
      | some c => cases found : class? c <;> simp [found, ih]

theorem filter_fill (inside : ∀ c ∈ value, class? c = true) (template : Template)
    : (fill value template).filter class? = fill value (template.filter (·.all class?)) := by
  induction template with
  | nil => rfl
  | cons place template ih =>
      cases place with
      | none => simp [List.filter_eq_self.mpr inside, ih]
      | some c => cases found : class? c <;> simp [found, ih]

/-- A value outside the class ends what is dropped from the end. -/
theorem dropEndWhile_fill (filled : value ≠ []) (outside : ∀ c ∈ value, class? c = false)
    (template : Template)
    : dropEndWhile class? (fill value template)
      = fill value (template.rdropWhile (·.any class?)) := by
  induction template using List.reverseRecOn with
  | nil => rfl
  | append_singleton template place ih =>
      cases place with
      | none =>
          have kept : dropEndWhile class? (fill value template ++ value)
              = fill value template ++ value := by
            apply dropEndWhile_eq_self_iff.mpr
            intro c last
            rw [List.getLast?_append_of_ne_nil _ filled] at last
            exact outside c (List.mem_of_getLast? last)
          rw [List.rdropWhile_concat_neg _ _ _ (by simp), fill_append, fill_place, fill_nil,
            List.append_nil, kept]
      | some c =>
          rw [fill_append, fill_char, fill_nil, dropEndWhile_concat, ih, List.rdropWhile_concat]
          cases found : class? c <;> simp [found, fill_append]

theorem map_fill (f : Char → Char) (fixed : ∀ c ∈ value, f c = c) (template : Template)
    : (fill value template).map f = fill value (template.map (·.map f)) := by
  induction template with
  | nil => rfl
  | cons place template ih =>
      cases place with
      | none => simp [ih, List.map_congr_left fixed]
      | some c => simp [ih]

/-- A text without marks lengthens the first part of the text that it comes before. -/
theorem splitOn_append_of_notMem {mark : Char} {before text part : List Char}
    {parts : List (List Char)} (unmarked : mark ∉ before)
    (parted : splitOn mark text = part :: parts)
    : splitOn mark (before ++ text) = (before ++ part) :: parts := by
  induction before with
  | nil => exact parted
  | cons c before ih =>
      obtain ⟨other, later⟩ := not_or.mp (mt List.mem_cons.mpr unmarked)
      rw [List.cons_append, splitOn, if_neg (Ne.symm other), ih later]
      rfl

/-- A template has parts of its own, whatever value without marks it is filled with. -/
theorem exists_splitOn_fill (mark : Char) (template : Template)
    : ∃ parts : List Template,
        parts ≠ []
        ∧ (∀ value, mark ∉ value → splitOn mark (fill value template) = parts.map (fill value))
        ∧ (none ∈ template → ∃ part ∈ parts, none ∈ part) := by
  induction template with
  | nil => exact ⟨[[]], by simp, fun _ _ => rfl, fun placed => absurd placed List.not_mem_nil⟩
  | cons place template ih =>
      obtain ⟨parts, some_part, split, placed⟩ := ih
      obtain ⟨part, parts, rfl⟩ := List.exists_cons_of_ne_nil some_part
      cases place with
      | none =>
          refine ⟨(none :: part) :: parts, by simp, ?_, ?_⟩
          · intro value unmarked
            exact splitOn_append_of_notMem unmarked (split value unmarked)
          · intro _
            exact ⟨_, List.mem_cons_self, List.mem_cons_self⟩
      | some c =>
          have later (within : none ∈ some c :: template)
              : ∃ place ∈ part :: parts, none ∈ place :=
            placed (by simpa using within)
          by_cases marked : c = mark
          · refine ⟨[] :: part :: parts, by simp, ?_, ?_⟩
            · intro value unmarked
              rw [fill_char, splitOn, if_pos marked, split value unmarked]
              rfl
            · intro within
              obtain ⟨found, member, own⟩ := later within
              exact ⟨found, List.mem_cons_of_mem _ member, own⟩
          · refine ⟨(some c :: part) :: parts, by simp, ?_, ?_⟩
            · intro value unmarked
              rw [fill_char, splitOn, if_neg marked, split value unmarked]
              rfl
            · intro within
              obtain ⟨found, member, own⟩ := later within
              rcases List.mem_cons.mp member with rfl | other
              · exact ⟨_, List.mem_cons_self, List.mem_cons_of_mem _ own⟩
              · exact ⟨found, List.mem_cons_of_mem _ other, own⟩

end Passes

end NodeDevices.Text
