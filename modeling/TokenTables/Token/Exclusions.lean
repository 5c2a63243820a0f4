import TokenTables.Token.Basic

/-!
Sets of tokens that a table must not hold. Membership is exact equality, and two sets are equal when
they have the same members, in whatever order and however often these were given.
-/

namespace TokenTables

structure Exclusions where
  tokens : List Token

namespace Exclusions

def empty : Exclusions := ⟨[]⟩

def ofList (tokens : List Token) : Exclusions := ⟨tokens⟩

def contains (s : Exclusions) (token : Token) : Bool := s.tokens.contains token

def insertMany (s : Exclusions) (more : List Token) : Exclusions := ⟨s.tokens ++ more⟩

instance : EmptyCollection Exclusions := ⟨empty⟩

instance : Inhabited Exclusions := ⟨empty⟩

instance : Membership Token Exclusions := ⟨fun s token => s.contains token = true⟩

instance : BEq Exclusions := ⟨fun a b => a.tokens.all b.contains && b.tokens.all a.contains⟩

theorem mem_iff {s : Exclusions} {token : Token} : token ∈ s ↔ s.contains token = true := Iff.rfl

theorem mem_iff_mem_tokens {s : Exclusions} {token : Token} : token ∈ s ↔ token ∈ s.tokens := by
  rw [mem_iff, contains, List.contains_iff_mem]

@[simp] theorem notMem_empty (token : Token) : token ∉ (∅ : Exclusions) := by
  rw [mem_iff_mem_tokens]; exact List.not_mem_nil

@[simp] theorem mem_ofList {tokens : List Token} {token : Token} :
    token ∈ ofList tokens ↔ token ∈ tokens :=
  mem_iff_mem_tokens

@[simp] theorem mem_insertMany {s : Exclusions} {more : List Token} {token : Token} :
    token ∈ s.insertMany more ↔ token ∈ s ∨ token ∈ more := by
  simp [mem_iff_mem_tokens, insertMany]

theorem beq_iff {a b : Exclusions} : (a == b) = true ↔ ∀ token, token ∈ a ↔ token ∈ b := by
  have unfold : (a == b) = (a.tokens.all b.contains && b.tokens.all a.contains) := rfl
  simp only [unfold, Bool.and_eq_true, List.all_eq_true, mem_iff_mem_tokens, contains,
    List.contains_iff_mem]
  exact ⟨fun h token => ⟨h.1 token, h.2 token⟩, fun h => ⟨fun t => (h t).1, fun t => (h t).2⟩⟩

end Exclusions

end TokenTables
