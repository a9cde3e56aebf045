import Mathlib.Data.List.Induction
import RemoteDebug.Register.Snapshot

/-!
# Snapshots and their entries

A snapshot is determined by the value of each register (`ext_value`), and a list that has exactly
these values in it, in whatever order, makes the snapshot again (`ofList_of_mem_iff`).
-/

namespace RemoteDebug

theorem Register.mem_all (register : Register) : register ∈ Register.all := by
  cases register <;> decide

theorem Register.index_injective {register other : Register} (h : register.index = other.index) :
    register = other := by
  have hall : ∀ register ∈ Register.all, ∀ other ∈ Register.all,
      register.index = other.index → register = other := by decide
  exact hall register register.mem_all other other.mem_all h

theorem Register.exists_index (i : Fin 20) : ∃ register : Register, register.index = i := by
  have hall : ∀ i : Fin 20, ∃ register ∈ Register.all, register.index = i := by decide
  obtain ⟨register, -, hindex⟩ := hall i
  exact ⟨register, hindex⟩

namespace Snapshot

theorem ext_value {snapshot other : Snapshot}
    (h : ∀ register, snapshot.value register = other.value register) : snapshot = other := by
  have hvalues : snapshot.values = other.values := by
    refine Vector.ext fun i hi => ?_
    obtain ⟨register, hindex⟩ := Register.exists_index ⟨i, hi⟩
    have hvalue := h register
    unfold value at hvalue
    simp only [hindex] at hvalue
    exact hvalue
  cases snapshot
  cases other
  exact congrArg Snapshot.mk hvalues

@[simp] theorem value_empty (register : Register) : empty.value register = none := by
  simp [value, empty]

@[simp] theorem value_insert (snapshot : Snapshot) (register other : Register) (new : Nat) :
    (snapshot.insert register new).value other =
      if register = other then some new else snapshot.value other := by
  unfold insert value
  by_cases h : register = other
  · subst h
    simp
  · have hindex : (register.index : Nat) ≠ other.index :=
      fun heq => h (Register.index_injective (Fin.ext heq))
    simp [h, hindex]

/-- Inserting entries gives a register the value that it has in each of its entries, if they agree,
and leaves it its value if it has none. -/
theorem value_foldl_insert {entries : List (Register × Nat)} {register : Register} {told : Nat}
    (hagree : ∀ entry ∈ entries, entry.1 = register → entry.2 = told) (snapshot : Snapshot) :
    (entries.foldl (fun found entry => found.insert entry.1 entry.2) snapshot).value register =
      if register ∈ entries.map Prod.fst then some told else snapshot.value register := by
  induction entries generalizing snapshot with
  | nil => rfl
  | cons entry rest ih =>
    obtain ⟨hfirst, hrest⟩ := List.forall_mem_cons.mp hagree
    rw [List.foldl_cons, ih hrest, value_insert, List.map_cons]
    by_cases hlater : register ∈ rest.map Prod.fst
    · rw [if_pos hlater, if_pos (List.mem_cons_of_mem _ hlater)]
    · by_cases hentry : entry.1 = register
      · subst hentry
        rw [if_neg hlater, if_pos rfl, if_pos List.mem_cons_self, hfirst rfl]
      · rw [if_neg hlater, if_neg hentry, if_neg]
        exact fun hmem => (List.mem_cons.mp hmem).elim (fun hsame => hentry hsame.symm) hlater

/-- A list of exactly the values in a snapshot makes this snapshot. -/
theorem ofList_of_mem_iff {entries : List (Register × Nat)} {snapshot : Snapshot}
    (h : ∀ register told, (register, told) ∈ entries ↔ snapshot.value register = some told) :
    ofList entries = snapshot := by
  refine ext_value fun register => ?_
  unfold ofList
  cases hvalue : snapshot.value register with
  | none =>
    have hnone : register ∉ entries.map Prod.fst := by
      intro hmem
      obtain ⟨⟨_, told⟩, hentry, rfl⟩ := List.mem_map.mp hmem
      rw [(h _ told).mp hentry] at hvalue
      cases hvalue
    have hagree : ∀ entry ∈ entries, entry.1 = register → entry.2 = 0 :=
      fun entry hentry hsame => absurd (hsame ▸ List.mem_map_of_mem hentry) hnone
    rw [value_foldl_insert hagree, if_neg hnone, value_empty]
  | some told =>
    have hagree : ∀ entry ∈ entries, entry.1 = register → entry.2 = told := by
      rintro ⟨_, other⟩ hentry rfl
      rw [(h _ other).mp hentry] at hvalue
      exact Option.some.inj hvalue
    have hmem : register ∈ entries.map Prod.fst :=
      List.mem_map_of_mem ((h register told).mpr hvalue)
    rw [value_foldl_insert hagree, if_pos hmem]

theorem value_ofList_append_singleton (entries : List (Register × Nat)) (entry : Register × Nat)
    (register : Register) :
    (ofList (entries ++ [entry])).value register =
      if entry.1 = register then some entry.2 else (ofList entries).value register := by
  unfold ofList
  rw [List.foldl_append, List.foldl_cons, List.foldl_nil, value_insert]

/-- A register has the value of its last entry. -/
theorem value_ofList_eq_some_iff {entries : List (Register × Nat)} {register : Register}
    {told : Nat} :
    (ofList entries).value register = some told ↔
      ∃ front behind, entries = front ++ (register, told) :: behind ∧
        register ∉ behind.map Prod.fst := by
  induction entries using List.reverseRecOn with
  | nil =>
    rw [ofList, List.foldl_nil, value_empty]
    simp
  | append_singleton entries last ih =>
    rw [value_ofList_append_singleton]
    constructor
    · intro h
      by_cases hlast : last.1 = register
      · rw [if_pos hlast] at h
        obtain rfl : last = (register, told) := Prod.ext hlast (Option.some.inj h)
        exact ⟨entries, [], rfl, List.not_mem_nil⟩
      · rw [if_neg hlast] at h
        obtain ⟨front, behind, rfl, hbehind⟩ := ih.mp h
        refine ⟨front, behind ++ [last], by simp, ?_⟩
        rw [List.map_append, List.mem_append, not_or]
        exact ⟨hbehind, fun hmem => hlast (List.mem_singleton.mp hmem).symm⟩
    · rintro ⟨front, behind, hparts, hbehind⟩
      induction behind using List.reverseRecOn with
      | nil =>
        obtain ⟨-, hlast⟩ := List.append_inj' hparts rfl
        rw [List.singleton_inj.mp hlast, if_pos rfl]
      | append_singleton before final =>
        rw [← List.cons_append, ← List.append_assoc] at hparts
        obtain ⟨hentries, hlast⟩ := List.append_inj' hparts rfl
        rw [List.map_append, List.mem_append, not_or] at hbehind
        rw [List.singleton_inj.mp hlast, if_neg, ih.mpr ⟨front, before, hentries, hbehind.1⟩]
        exact fun hfinal => hbehind.2 (List.mem_singleton.mpr hfinal.symm)

theorem mem_toList_iff (snapshot : Snapshot) (register : Register) (told : Nat) :
    (register, told) ∈ snapshot.toList ↔ snapshot.value register = some told := by
  unfold toList
  simp [Register.mem_all]

end Snapshot

end RemoteDebug
