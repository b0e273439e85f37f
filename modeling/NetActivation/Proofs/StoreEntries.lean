import Mathlib.Data.List.InsertIdx
import NetActivation.Store.Basic

set_option autoImplicit false

/-! # Changes to the entries of a store, and their undoing

A store changes its entries before it saves them. If saving fails the change is undone, on one of
three paths: an entry that was replaced is put back in its place (`restore_upsert`, with a previous
entry), one that was added is taken off the end (`restore_upsert`, without one), and one that was
removed is put back where it was (`insertIdx_eraseIdx`). Every change keeps the entries fit to be
stored. -/

namespace NetActivation.Store

/-! ## Places -/

/-- The place of a key holds an entry with that key, and no earlier place does. -/
theorem indexOf?_eq_some_iff {s : Store} {kind : EntityKind} {name : String} {i : Nat} :
    s.indexOf? kind name = some i ↔
      ∃ hi : i < s.entries.length, s.entries[i].key = (kind, name) ∧
        ∀ j (hj : j < i), (s.entries.get ⟨j, Nat.lt_trans hj hi⟩).key ≠ (kind, name) := by
  simp [indexOf?, List.findIdx?_eq_some_iff_getElem]

theorem indexOf?_eq_none_iff {s : Store} {kind : EntityKind} {name : String} :
    s.indexOf? kind name = none ↔ ∀ e ∈ s.entries, e.key ≠ (kind, name) := by
  simp [indexOf?, List.findIdx?_eq_none_iff]

/-- What is found for a key is what stands in its place. -/
theorem getElem?_indexOf? {s : Store} {kind : EntityKind} {name : String} {i : Nat}
    (h : s.indexOf? kind name = some i) : s.entries[i]? = s.find? kind name := by
  rw [indexOf?] at h
  rw [find?, List.find?_eq_bind_findIdx?_getElem?, h]
  rfl

/-! ## Undoing -/

/-- Replacing the entry in the place of a key by one with that key leaves the place where it was. -/
theorem indexOf?_set {s : Store} {e : Entry} {i : Nat}
    (h : s.indexOf? e.kind e.name = some i) :
    ({ s with entries := s.entries.set i e } : Store).indexOf? e.kind e.name = some i := by
  rw [indexOf?_eq_some_iff] at h ⊢
  obtain ⟨hi, -, hfirst⟩ := h
  refine ⟨by simpa using hi, by simp [Entry.key], ?_⟩
  intro j hj
  simp only [List.get_eq_getElem]
  rw [List.getElem_set_ne (by omega)]
  exact hfirst j hj

/-- The place of a key that was new is the end. -/
theorem indexOf?_append {s : Store} {e : Entry} (h : s.indexOf? e.kind e.name = none) :
    ({ s with entries := s.entries ++ [e] } : Store).indexOf? e.kind e.name =
      some s.entries.length := by
  rw [indexOf?_eq_none_iff] at h
  rw [indexOf?_eq_some_iff]
  refine ⟨by simp, by simp [Entry.key], ?_⟩
  intro j hj
  simp only [List.get_eq_getElem, List.getElem_append_left hj]
  exact h _ (List.getElem_mem hj)

/-- **An `upsert` can be undone**, whether it replaced an entry or added one. -/
theorem restore_upsert (s : Store) (e : Entry) :
    (s.upsert e).2.restore e.kind e.name (s.upsert e).1 = s := by
  obtain ⟨path, entries⟩ := s
  rw [upsert]
  split
  · next i h =>
      have hi : i < entries.length := (indexOf?_eq_some_iff.1 h).1
      simp only [restore, indexOf?_set h, List.getElem?_eq_getElem hi]
      simp
  · next h =>
      simp only [restore, indexOf?_append h]
      simp [List.eraseIdx_append_of_length_le]

/-- **A removal can be undone**: the entry of a key goes back to the place of that key. -/
theorem insertIdx_eraseIdx {s : Store} {kind : EntityKind} {name : String} {i : Nat} {e : Entry}
    (hi : s.indexOf? kind name = some i) (he : s.find? kind name = some e) :
    (s.entries.eraseIdx i).insertIdx i e = s.entries := by
  have hlt : i < s.entries.length := (indexOf?_eq_some_iff.1 hi).1
  have hget : s.entries[i] = e := by
    rw [← getElem?_indexOf? hi, List.getElem?_eq_getElem hlt, Option.some.injEq] at he
    exact he
  rw [← hget, List.insertIdx_eraseIdx_getElem hlt]

/-! ## Fit entries -/

theorem path_upsert (s : Store) (e : Entry) : (s.upsert e).2.path = s.path := by
  rw [upsert]
  split <;> rfl

/-- An entry with the key of the one that it replaces leaves the keys as they are. -/
theorem map_key_set {es : List Entry} {e : Entry} {i : Nat} (hi : i < es.length)
    (hkey : es[i].key = e.key) : (es.set i e).map Entry.key = es.map Entry.key := by
  have hlt : i < (es.map Entry.key).length := by simpa using hi
  have hget : (es.map Entry.key)[i] = e.key := by rw [List.getElem_map, hkey]
  rw [List.map_set, ← hget, List.set_getElem_self hlt]

/-- A key that none of the entries has is new at their end. -/
theorem nodup_map_key_append {es : List Entry} {e : Entry} (hkeys : (es.map Entry.key).Nodup)
    (hnew : ∀ d ∈ es, d.key ≠ e.key) : ((es ++ [e]).map Entry.key).Nodup := by
  simp only [List.map_append, List.map_cons, List.map_nil]
  rw [List.nodup_append]
  refine ⟨hkeys, by simp, ?_⟩
  intro k hk k' hk' heq
  obtain ⟨d, hd, rfl⟩ := List.mem_map.1 hk
  exact hnew d hd (heq.trans (List.mem_singleton.1 hk'))

theorem wellFormed_upsert {s : Store} {e : Entry} (hs : Entry.WellFormed s.entries)
    (he : e.set.Valid) : Entry.WellFormed (s.upsert e).2.entries := by
  obtain ⟨hkeys, hsets⟩ := hs
  rw [upsert]
  split
  · next i h =>
      obtain ⟨hi, hkey, -⟩ := indexOf?_eq_some_iff.1 h
      constructor
      · rwa [map_key_set hi hkey]
      · intro d hd
        rcases List.mem_or_eq_of_mem_set hd with hd | rfl
        · exact hsets d hd
        · exact he
  · next h =>
      constructor
      · exact nodup_map_key_append hkeys (indexOf?_eq_none_iff.1 h)
      · intro d hd
        rcases List.mem_append.1 hd with hd | hd
        · exact hsets d hd
        · rw [List.mem_singleton.1 hd]
          exact he

theorem wellFormed_eraseIdx {es : List Entry} (h : Entry.WellFormed es) (i : Nat) :
    Entry.WellFormed (es.eraseIdx i) := by
  obtain ⟨hkeys, hsets⟩ := h
  have hsub := List.eraseIdx_sublist es i
  exact ⟨hkeys.sublist (hsub.map Entry.key), fun e he => hsets e (hsub.subset he)⟩

end NetActivation.Store
