import NodeDevices.Json.Writer
import NodeDevices.Proofs.Json.Shape

/-! Documents that can be written. Whole texts are names, so that a document without halves of
surrogate pairs is always written, and so is every value that is read back from its document.
-/

namespace NodeDevices.Json

variable {α : Type}

mutual
/-- The members in a document have names, when all of its texts are whole. -/
theorem isNamed_of_isPlain (document : Json) (plain : document.IsPlain)
    : document.isNamed = true := by
  cases document with
  | null | bool | num | str => rfl
  | arr items =>
      refine itemsAreNamed_of_plain items fun token member => plain token ?_
      simp [tokens, member]
  | obj members =>
      refine membersAreNamed_of_plain members fun token member => plain token ?_
      simp [tokens, member]

theorem itemsAreNamed_of_plain (items : List Json)
    (plain : ∀ token ∈ itemTokens items, token.IsPlain)
    : itemsAreNamed items = true := by
  match items with
  | [] => rfl
  | [item] => simpa [itemsAreNamed] using isNamed_of_isPlain item plain
  | item :: next :: items =>
      simp only [itemTokens, List.forall_mem_append, List.forall_mem_cons] at plain
      rw [itemsAreNamed, isNamed_of_isPlain item plain.1,
        itemsAreNamed_of_plain (next :: items) plain.2.2, Bool.and_self]

theorem membersAreNamed_of_plain (members : List (Text × Json))
    (plain : ∀ token ∈ memberTokens members, token.IsPlain)
    : membersAreNamed members = true := by
  match members with
  | [] => rfl
  | [(name, value)] =>
      simp only [memberTokens, List.forall_mem_cons] at plain
      have named : name.isSome = true := plain.1
      simp [membersAreNamed, named, isNamed_of_isPlain value plain.2.2]
  | (name, value) :: next :: members =>
      simp only [memberTokens, List.forall_mem_append, List.forall_mem_cons,
        List.cons_append] at plain
      obtain ⟨named, -, whole, -, later⟩ := plain
      have named : name.isSome = true := named
      rw [membersAreNamed, named, isNamed_of_isPlain value whole,
        membersAreNamed_of_plain (next :: members) later, Bool.and_self, Bool.and_self]
end

theorem write_of_isPlain {document : Json} (plain : document.IsPlain)
    : document.write = .ok document.render :=
  if_pos (isNamed_of_isPlain document plain)

/-- A value that is read back from its document is always written. -/
theorem Inverse.write_eq {read? : Json → Option α} {write : α → Json}
    (inverse : Inverse read? write) (value : α)
    : (write value).write = .ok (encode write value) :=
  write_of_isPlain (inverse.plain value)

/-- Half of a surrogate pair is no name. -/
example : (Json.arr [.obj [(some "ip", .null), (none, .bool true)]]).write = .error .unnamed := by
  decide

end NodeDevices.Json
