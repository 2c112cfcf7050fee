/-!
# Tables by transaction

A finite map from transaction IDs to values: at most one value under each ID. `find?` is its view; `insert` and `erase`
change it under one ID only. The entries stay in the order in which they were put there.
-/

namespace SimPhonebook

structure TransactionTable (α : Type) where
  entries : List (UInt32 × α)
  distinct : (entries.map (·.1)).Nodup
deriving Repr

namespace TransactionTable

variable {α : Type}

def empty : TransactionTable α := ⟨[], List.nodup_nil⟩

instance : EmptyCollection (TransactionTable α) := ⟨empty⟩

instance : Inhabited (TransactionTable α) := ⟨empty⟩

/-- The first value listed under `id`. -/
def valueUnder (id : UInt32) : List (UInt32 × α) → Option α
  | [] => none
  | (key, a) :: rest => if key = id then some a else valueUnder id rest

def find? (t : TransactionTable α) (id : UInt32) : Option α := valueUnder id t.entries

/-- The table with nothing under `id`. -/
def erase (t : TransactionTable α) (id : UInt32) : TransactionTable α :=
  ⟨t.entries.filter (·.1 != id), t.distinct.sublist (List.filter_sublist.map _)⟩

/-- The table with `a` under `id`, in place of what was there. -/
def insert (t : TransactionTable α) (id : UInt32) (a : α) : TransactionTable α :=
  ⟨(t.erase id).entries ++ [(id, a)], by
    rw [List.map_append, List.nodup_append]
    refine ⟨(t.erase id).distinct, by simp, fun k hk k' hk' => ?_⟩
    obtain ⟨p, hp, rfl⟩ := List.mem_map.1 hk
    have hne : p.1 ≠ id := by simpa using (List.mem_filter.1 hp).2
    simp only [List.map_cons, List.map_nil, List.mem_singleton] at hk'
    rwa [hk']⟩

def size (t : TransactionTable α) : Nat := t.entries.length

/-- The values, oldest first. -/
def values (t : TransactionTable α) : List α := t.entries.map (·.2)

@[simp] theorem find?_empty (id : UInt32) : (empty : TransactionTable α).find? id = none := rfl

theorem valueUnder_filter_ne (l : List (UInt32 × α)) (id key : UInt32) :
    valueUnder key (l.filter (·.1 != id)) = if key = id then none else valueUnder key l := by
  induction l with
  | nil => split <;> rfl
  | cons p l ih =>
    obtain ⟨k, a⟩ := p
    by_cases hk : k = id
    · subst hk
      by_cases hkey : key = k
      · subst hkey
        simpa using ih
      · have hkey' : ¬k = key := fun h => hkey h.symm
        simp [ih, hkey, hkey', valueUnder]
    · by_cases hkey : k = key
      · simp [hkey, valueUnder, hkey ▸ hk]
      · simp [hk, hkey, valueUnder, ih]

theorem valueUnder_append (l l' : List (UInt32 × α)) (key : UInt32) :
    valueUnder key (l ++ l') = (valueUnder key l).or (valueUnder key l') := by
  induction l with
  | nil => rfl
  | cons p l ih =>
    obtain ⟨k, a⟩ := p
    by_cases hk : k = key
    · simp [valueUnder, hk]
    · simp [valueUnder, hk, ih]

@[simp] theorem find?_erase (t : TransactionTable α) (id key : UInt32) :
    (t.erase id).find? key = if key = id then none else t.find? key :=
  valueUnder_filter_ne t.entries id key

@[simp] theorem find?_insert (t : TransactionTable α) (id key : UInt32) (a : α) :
    (t.insert id a).find? key = if key = id then some a else t.find? key := by
  have h := valueUnder_filter_ne t.entries id key
  by_cases hkey : key = id
  · subst hkey
    simp_all [insert, erase, find?, valueUnder_append, valueUnder]
  · have hkey' : ¬id = key := fun h => hkey h.symm
    simp_all [insert, erase, find?, valueUnder_append, valueUnder]

theorem mem_of_valueUnder {l : List (UInt32 × α)} {key : UInt32} {a : α} (h : valueUnder key l = some a) :
    (key, a) ∈ l := by
  induction l with
  | nil => cases h
  | cons p l ih =>
    obtain ⟨k, b⟩ := p
    simp only [valueUnder] at h
    split at h
    · rename_i hk
      cases h
      simp [hk]
    · exact List.mem_cons_of_mem _ (ih h)

theorem valueUnder_of_mem {l : List (UInt32 × α)} (hl : (l.map (·.1)).Nodup) {key : UInt32} {a : α}
    (h : (key, a) ∈ l) : valueUnder key l = some a := by
  induction l with
  | nil => cases h
  | cons p l ih =>
    obtain ⟨k, b⟩ := p
    rw [List.map_cons, List.nodup_cons] at hl
    rcases List.mem_cons.1 h with h | h
    · cases h
      simp [valueUnder]
    · have hk : k ≠ key := fun e => hl.1 (List.mem_map.2 ⟨(key, a), h, e.symm⟩)
      simp [valueUnder, hk, ih hl.2 h]

/-- The entries of a table are what can be found in it. -/
theorem mem_entries_iff (t : TransactionTable α) (key : UInt32) (a : α) :
    (key, a) ∈ t.entries ↔ t.find? key = some a :=
  ⟨valueUnder_of_mem t.distinct, mem_of_valueUnder⟩

theorem mem_values_iff (t : TransactionTable α) (a : α) : a ∈ t.values ↔ ∃ key, t.find? key = some a := by
  constructor
  · intro h
    obtain ⟨⟨key, b⟩, hp, rfl⟩ := List.mem_map.1 h
    exact ⟨key, (t.mem_entries_iff key b).1 hp⟩
  · rintro ⟨key, h⟩
    exact List.mem_map.2 ⟨(key, a), (t.mem_entries_iff key a).2 h, rfl⟩

/-- Where nothing can be found there is no entry. -/
theorem entries_eq_nil {t : TransactionTable α} (h : ∀ key, t.find? key = none) : t.entries = [] := by
  rw [List.eq_nil_iff_forall_not_mem]
  rintro ⟨key, a⟩ hp
  have := (t.mem_entries_iff key a).1 hp
  rw [h key] at this
  cases this

end TransactionTable

end SimPhonebook
