import TokenTables.Json.Basic
import TokenTables.Proofs.Except

/-!
The fields of an object, seen from its members: every field is one of the members, and every key of a
member is the key of a field. So a fold over the fields whose steps all succeed has seen every key.
-/

namespace TokenTables.Json

theorem mem_setField {key : Text} {val : Json} {fs : List (Text × Json)} {f : Text × Json}
    (h : f ∈ setField key val fs) : f = (key, val) ∨ f ∈ fs := by
  induction fs with
  | nil => exact .inl (List.mem_singleton.1 h)
  | cons first rest ih =>
    unfold setField at h
    split at h
    · exact (List.mem_cons.1 h).imp_right (.tail first)
    · split at h
      · exact List.mem_cons.1 h
      · rcases List.mem_cons.1 h with rfl | later
        · exact .inr (.head rest)
        · exact (ih later).imp_right (.tail first)

theorem key_mem_setField_iff {key k : Text} {val : Json} {fs : List (Text × Json)} :
    k ∈ (setField key val fs).map Prod.fst ↔ k = key ∨ k ∈ fs.map Prod.fst := by
  induction fs with
  | nil => simp [setField]
  | cons first rest ih =>
    unfold setField
    split
    · next same => simp [← same]
    · split
      · simp
      · simp only [List.map_cons, List.mem_cons, ih]
        exact or_left_comm

theorem mem_foldl_setField {ms acc : List (Text × Json)} {f : Text × Json}
    (h : f ∈ ms.foldl (fun acc m => setField m.1 m.2 acc) acc) : f ∈ acc ∨ f ∈ ms := by
  induction ms generalizing acc with
  | nil => exact .inl h
  | cons m ms ih =>
    rcases ih h with early | later
    · rcases mem_setField early with rfl | older
      · exact .inr (.head ms)
      · exact .inl older
    · exact .inr (.tail m later)

theorem mem_of_mem_fields {ms : List (Text × Json)} {f : Text × Json} (h : f ∈ fields ms) :
    f ∈ ms :=
  (mem_foldl_setField h).resolve_left List.not_mem_nil

theorem key_mem_foldl_setField_iff {ms acc : List (Text × Json)} {k : Text} :
    k ∈ (ms.foldl (fun acc m => setField m.1 m.2 acc) acc).map Prod.fst ↔
      k ∈ acc.map Prod.fst ∨ k ∈ ms.map Prod.fst := by
  induction ms generalizing acc with
  | nil => simp
  | cons m ms ih =>
    rw [List.foldl_cons, ih, key_mem_setField_iff, List.map_cons, List.mem_cons, or_assoc]
    exact or_left_comm

theorem key_mem_fields_iff {ms : List (Text × Json)} {k : Text} :
    k ∈ (fields ms).map Prod.fst ↔ k ∈ ms.map Prod.fst :=
  key_mem_foldl_setField_iff.trans (or_iff_right List.not_mem_nil)

/-- A fold whose state depends only on the keys it has taken ends in the state for all keys. -/
theorem foldlM_fields {σ ε : Type} (step : σ → Text × Json → Except ε σ) (state : List Text → σ)
    {fs : List (Text × Json)}
    (each : ∀ f ∈ fs, ∀ keys, step (state keys) f = .ok (state (f.1 :: keys)))
    (keys : List Text) :
    fs.foldlM step (state keys) = .ok (state ((fs.map Prod.fst).reverse ++ keys)) := by
  induction fs generalizing keys with
  | nil => rfl
  | cons f fs ih =>
    obtain ⟨first, others⟩ := List.forall_mem_cons.1 each
    simp only [List.foldlM_cons, first keys, ok_bind, ih others, List.map_cons,
      List.reverse_cons, List.append_assoc, List.singleton_append]

end TokenTables.Json
