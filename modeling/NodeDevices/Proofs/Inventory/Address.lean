import NodeDevices.Inventory.Address
import NodeDevices.Proofs.Text.Blank
import NodeDevices.Proofs.Text.LetterCase

/-! What becomes of a server's address. It is put into lower case, and neither starts with a blank
nor ends in a slash. The slashes are dropped last, though: they may be those of the scheme, when
nothing else follows it, and a blank may stand before them. Except in these two cases, the address
is in a form that stays as it is.
-/

namespace NodeDevices

open Text

namespace Inventory

-----------------------------------------------------------------------------------------
-- Schemes
-----------------------------------------------------------------------------------------

/-- The scheme that an address gets: that of plain connections, unless it has the secure one. -/
def schemeOf (address : List Char) : List Char :=
  if "https://".toList.isPrefixOf address then "https://".toList else "http://".toList

/-- What an address says behind its scheme, if it has one. -/
def behindScheme (address : List Char) : List Char :=
  if "tcp://".toList.isPrefixOf address then address.drop "tcp://".length
  else if "http://".toList.isPrefixOf address then address.drop "http://".length
  else if "https://".toList.isPrefixOf address then address.drop "https://".length
  else address

/-- The address starts with the scheme of plain or of secure connections. -/
def HasScheme (address : List Char) : Prop :=
  "http://".toList <+: address ∨ "https://".toList <+: address

theorem schemeOf_eq_or (address : List Char)
    : schemeOf address = "http://".toList ∨ schemeOf address = "https://".toList := by
  unfold schemeOf
  split
  · exact Or.inr rfl
  · exact Or.inl rfl

theorem withScheme_eq (address : List Char)
    : withScheme address = schemeOf address ++ behindScheme address := by
  rw [withScheme, dropStart?, schemeOf, behindScheme]
  by_cases tcp : "tcp://".toList.isPrefixOf address = true
  · obtain ⟨rest, rfl⟩ := List.isPrefixOf_iff_prefix.mp tcp
    rfl
  by_cases plain : "http://".toList.isPrefixOf address = true
  · obtain ⟨rest, rfl⟩ := List.isPrefixOf_iff_prefix.mp plain
    rfl
  by_cases secure : "https://".toList.isPrefixOf address = true
  · obtain ⟨rest, rfl⟩ := List.isPrefixOf_iff_prefix.mp secure
    rfl
  · simp only [tcp, plain, secure, or_self, if_false, Bool.false_eq_true]

/-- An address that has a scheme keeps it. -/
theorem withScheme_of_schemeOf (address rest : List Char)
    : withScheme (schemeOf address ++ rest) = schemeOf address ++ rest := by
  rcases schemeOf_eq_or address with scheme | scheme <;> rw [scheme] <;> rfl

theorem isLower_of_mem_schemeOf {address : List Char} {c : Char} (member : c ∈ schemeOf address)
    : LetterCase.IsLower c := by
  have plain : ∀ c ∈ "http://".toList, LetterCase.IsLower c :=
    LetterCase.isLower_of_all (by decide +kernel)
  have secure : ∀ c ∈ "https://".toList, LetterCase.IsLower c :=
    LetterCase.isLower_of_all (by decide +kernel)
  rcases schemeOf_eq_or address with scheme | scheme <;> rw [scheme] at member
  · exact plain c member
  · exact secure c member

theorem mem_of_mem_behindScheme {address : List Char} {c : Char}
    (member : c ∈ behindScheme address)
    : c ∈ address := by
  unfold behindScheme at member
  split at member
  · exact List.mem_of_mem_drop member
  split at member
  · exact List.mem_of_mem_drop member
  split at member
  · exact List.mem_of_mem_drop member
  · exact member

-----------------------------------------------------------------------------------------
-- The normal form in its parts
-----------------------------------------------------------------------------------------

/-- The scheme that an address gets in its normal form. -/
def scheme (raw : String) : List Char :=
  schemeOf (LetterCase.lower (trim raw).toList)

/-- What an address names: itself in lower case, without blanks around it, without its scheme and
without the slashes at its end.
-/
def bare (raw : String) : List Char :=
  dropEndWhile (· = '/') (behindScheme (LetterCase.lower (trim raw).toList))

/-- The normal form is the scheme before the rest; without a rest, the scheme loses its slashes. -/
theorem toList_normalizeAddress (raw : String)
    : (normalizeAddress raw).toList
      = if bare raw = [] then dropEndWhile (· = '/') (scheme raw) else scheme raw ++ bare raw := by
  rw [normalizeAddress, String.toList_ofList, withScheme_eq, dropEndWhile_append]
  rfl

theorem normalizeAddress_of_bare_eq_nil {raw : String} (empty : bare raw = [])
    : normalizeAddress raw = "http:" ∨ normalizeAddress raw = "https:" := by
  have shown := toList_normalizeAddress raw
  rw [if_pos empty] at shown
  rcases schemeOf_eq_or (LetterCase.lower (trim raw).toList) with plain | secure
  · rw [scheme, plain] at shown
    exact Or.inl (String.toList_inj.mp shown)
  · rw [scheme, secure] at shown
    exact Or.inr (String.toList_inj.mp shown)

theorem toList_normalizeAddress_of_bare_ne_nil {raw : String} (named : bare raw ≠ [])
    : (normalizeAddress raw).toList = scheme raw ++ bare raw := by
  rw [toList_normalizeAddress, if_neg named]

theorem isLower_of_mem_bare {raw : String} {c : Char} (member : c ∈ bare raw)
    : LetterCase.IsLower c :=
  LetterCase.isLower_of_mem_lower (mem_of_mem_behindScheme (mem_of_mem_dropEndWhile member))

theorem isLower_of_mem_normalizeAddress {raw : String} {c : Char}
    (member : c ∈ (normalizeAddress raw).toList)
    : LetterCase.IsLower c := by
  rw [toList_normalizeAddress] at member
  split at member
  · exact isLower_of_mem_schemeOf (mem_of_mem_dropEndWhile member)
  · rcases List.mem_append.mp member with first | rest
    · exact isLower_of_mem_schemeOf first
    · exact isLower_of_mem_bare rest

theorem head?_normalizeAddress (raw : String)
    : (normalizeAddress raw).toList.head? = some 'h' := by
  by_cases empty : bare raw = []
  · rcases normalizeAddress_of_bare_eq_nil empty with plain | secure
    · rw [plain]
      rfl
    · rw [secure]
      rfl
  · rw [toList_normalizeAddress_of_bare_ne_nil empty, scheme]
    rcases schemeOf_eq_or (LetterCase.lower (trim raw).toList) with plain | secure
    · rw [plain]
      rfl
    · rw [secure]
      rfl

theorem getLast?_normalizeAddress {raw : String} {c : Char}
    (last : c ∈ (normalizeAddress raw).toList.getLast?)
    : decide (c = '/') = false := by
  rw [normalizeAddress, String.toList_ofList] at last
  exact getLast?_dropEndWhile last

-----------------------------------------------------------------------------------------
-- The normal form of a normal form
-----------------------------------------------------------------------------------------

theorem toList_trim_of_scheme {address : String} {raw rest : List Char}
    (shown : address.toList = schemeOf raw ++ rest)
    : (trim address).toList = schemeOf raw ++ dropEndWhile isBlank rest := by
  have solid : dropBlank (schemeOf raw ++ rest) = schemeOf raw ++ rest
      ∧ dropEndWhile isBlank (schemeOf raw) = schemeOf raw := by
    rcases schemeOf_eq_or raw with plain | secure
    · rw [plain]
      exact ⟨rfl, rfl⟩
    · rw [secure]
      exact ⟨rfl, rfl⟩
  rw [trim, String.toList_ofList, shown, solid.1, dropEndWhile_append]
  split
  · next empty => rw [empty, solid.2, List.append_nil]
  · rfl

/-- What an address in lower case with a scheme becomes. -/
theorem toList_normalizeAddress_of_scheme {address : String} {raw rest : List Char}
    (shown : address.toList = schemeOf raw ++ rest)
    (low : ∀ c ∈ address.toList, LetterCase.IsLower c)
    : (normalizeAddress address).toList
      = dropEndWhile (· = '/') (schemeOf raw ++ dropEndWhile isBlank rest) := by
  have trimmed := toList_trim_of_scheme shown
  have stays : LetterCase.lower (trim address).toList = (trim address).toList := by
    apply LetterCase.lower_eq_self
    intro c member
    rw [trimmed] at member
    apply low
    rw [shown]
    rcases List.mem_append.mp member with first | later
    · exact List.mem_append_left _ first
    · exact List.mem_append_right _ (mem_of_mem_dropEndWhile later)
  rw [normalizeAddress, String.toList_ofList, stays, trimmed, withScheme_of_schemeOf]

/-- An address in its normal form stays as it is exactly if it has a scheme and no blank at its
end.
-/
theorem normalizeAddress_normalizeAddress_iff (raw : String)
    : normalizeAddress (normalizeAddress raw) = normalizeAddress raw
      ↔ bare raw ≠ [] ∧ ∀ c ∈ (bare raw).getLast?, isBlank c = false := by
  constructor
  · intro stays
    have named : bare raw ≠ [] := by
      intro empty
      rcases normalizeAddress_of_bare_eq_nil empty with plain | secure
      · rw [plain] at stays
        exact absurd stays (by decide +kernel)
      · rw [secure] at stays
        exact absurd stays (by decide +kernel)
    have shown := toList_normalizeAddress_of_bare_ne_nil named
    have again :=
      toList_normalizeAddress_of_scheme shown fun c => isLower_of_mem_normalizeAddress
    rw [stays, shown, ← scheme] at again
    -- a blank at the end would be dropped, and the address be shorter than before
    have long : (bare raw).length ≤ (dropEndWhile isBlank (bare raw)).length := by
      have same := congrArg List.length again
      have shorter := length_dropEndWhile_le (· = '/')
        (scheme raw ++ dropEndWhile isBlank (bare raw))
      rw [List.length_append] at same shorter
      omega
    exact ⟨named, dropEndWhile_eq_self_iff.mp
      ((List.rdropWhile_prefix isBlank (bare raw)).eq_of_length_le long)⟩
  · rintro ⟨named, solid⟩
    have shown := toList_normalizeAddress_of_bare_ne_nil named
    apply String.toList_inj.mp
    rw [toList_normalizeAddress_of_scheme shown fun c => isLower_of_mem_normalizeAddress,
      dropEndWhile_eq_self_iff.mpr solid, ← scheme, ← shown, dropEndWhile_eq_self_iff]
    exact fun c => getLast?_normalizeAddress

theorem hasScheme_normalizeAddress_iff (raw : String)
    : HasScheme (normalizeAddress raw).toList ↔ bare raw ≠ [] := by
  constructor
  · intro has empty
    rcases normalizeAddress_of_bare_eq_nil empty with plain | secure
    · rw [plain] at has
      exact absurd has (by unfold HasScheme; decide +kernel)
    · rw [secure] at has
      exact absurd has (by unfold HasScheme; decide +kernel)
  · intro named
    rw [toList_normalizeAddress_of_bare_ne_nil named, scheme]
    rcases schemeOf_eq_or (LetterCase.lower (trim raw).toList) with plain | secure
    · rw [plain]
      exact Or.inl (List.prefix_append _ _)
    · rw [secure]
      exact Or.inr (List.prefix_append _ _)

theorem getLast?_normalizeAddress_iff (raw : String)
    : (∀ c ∈ (normalizeAddress raw).toList.getLast?, isBlank c = false)
      ↔ ∀ c ∈ (bare raw).getLast?, isBlank c = false := by
  by_cases empty : bare raw = []
  · refine iff_of_true ?_ (by simp [empty])
    rcases normalizeAddress_of_bare_eq_nil empty with plain | secure
    · rw [plain]
      rintro _ ⟨⟩
      decide
    · rw [secure]
      rintro _ ⟨⟩
      decide
  · rw [toList_normalizeAddress_of_bare_ne_nil empty, List.getLast?_append_of_ne_nil _ empty]

/-- The normal form of an address is in lower case, starts with no blank and ends in no slash. It
starts with a scheme unless the address names nothing, and ends in no blank unless what the
address names does, behind which there were slashes. It stays as it is exactly if it starts
with a scheme and ends in no blank.
-/
theorem normalizeAddress_staysIff (raw : String)
    : (normalizeAddress raw).toList.getLast? ≠ some '/'
      ∧ (∀ c ∈ (normalizeAddress raw).toList.head?, isBlank c = false)
      ∧ LetterCase.lower (normalizeAddress raw).toList = (normalizeAddress raw).toList
      ∧ (HasScheme (normalizeAddress raw).toList ↔ bare raw ≠ [])
      ∧ ((∀ c ∈ (normalizeAddress raw).toList.getLast?, isBlank c = false)
        ↔ ∀ c ∈ (bare raw).getLast?, isBlank c = false)
      ∧ (normalizeAddress (normalizeAddress raw) = normalizeAddress raw
        ↔ HasScheme (normalizeAddress raw).toList
          ∧ ∀ c ∈ (normalizeAddress raw).toList.getLast?, isBlank c = false) := by
  refine ⟨?_, ?_, ?_, hasScheme_normalizeAddress_iff raw, getLast?_normalizeAddress_iff raw, ?_⟩
  · intro slash
    exact absurd (getLast?_normalizeAddress slash) (by decide)
  · rw [head?_normalizeAddress]
    rintro _ ⟨⟩
    decide
  · exact LetterCase.lower_eq_self fun c => isLower_of_mem_normalizeAddress
  · rw [hasScheme_normalizeAddress_iff, getLast?_normalizeAddress_iff,
      normalizeAddress_normalizeAddress_iff]

/-- A blank before a slash stays, and goes the next time. -/
example : normalizeAddress "a /" = "http://a " ∧ normalizeAddress "http://a " = "http://a" := by
  decide +kernel

end Inventory

end NodeDevices
