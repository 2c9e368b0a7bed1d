import SensorGateway.Proofs.Topic.Reference

/-!
A topic table over any sequence of operations, with any arguments. What one operation does is
told in `Table.name?_assign` and the lemmas beside it; here is what none of them ever does. The
predefined ids stay as they were told at first and 0 never gets a name, which is the invariant
`Seeded`, and ids are given out one after the other, which needs no invariant but `next`.
-/

namespace SensorGateway.Topic

inductive Operation where
  | allocate
  | assign (id : UInt16) (name : String)
  | register (name : String)
  | removeId (id : UInt16)
  | removeName (name : String)

namespace Table

def after (table : Table) : Operation → Table
  | .allocate => table.allocate.2
  | .assign id name => (table.assign id name).2
  | .register name => (table.register name).2
  | .removeId id => (table.removeId id).2
  | .removeName name => (table.removeName name).2

def afterAll (table : Table) (operations : List Operation) : Table :=
  operations.foldl after table

/-- What comes of asking for an id that nothing has: an operation may ask for one by itself, or
because a name that it is about has none. -/
def allocation? (table : Table) : Operation → Option (Option UInt16)
  | .allocate => some table.allocate.1
  | .register name => if table.id? name = none then some (table.register name).1 else none
  | .assign .. | .removeId _ | .removeName _ => none

/-- What came of each time that an id was asked for, in order. -/
def allocations (table : Table) : List Operation → List (Option UInt16)
  | [] => []
  | operation :: operations =>
      (table.allocation? operation).toList ++ (table.after operation).allocations operations

variable {table : Table} {operation : Operation} {id size : UInt16} {name : String}
  {entries : List Entry}

/-! ### Ids that are given out -/

theorem next_allocate (table : Table) :
    table.allocate.2.next = if table.next ≤ 65535 then table.next + 1 else table.next := by
  by_cases hnext : table.next ≤ 65535
  · rw [allocate_of_room hnext, if_pos hnext]
  · rw [allocate_of_full (Nat.not_le.mp hnext), if_neg hnext]

/-- A name without an id is given what `allocate` gives. -/
theorem register_of_id?_eq_none (hnone : table.id? name = none) :
    (table.register name).1 = table.allocate.1 ∧
      (table.register name).2.next = table.allocate.2.next := by
  by_cases hnext : table.next ≤ 65535
  · rw [register_of_room hnone hnext, allocate_of_room hnext, next_assign]
    exact ⟨rfl, rfl⟩
  · rw [register_of_full hnone (Nat.not_le.mp hnext), allocate_of_full (Nat.not_le.mp hnext)]
    exact ⟨rfl, rfl⟩

/-- Whoever asks for an id gets the one that comes next. -/
theorem allocation?_eq_some {outcome : Option UInt16}
    (hasked : table.allocation? operation = some outcome) :
    outcome = table.allocate.1 ∧ (table.after operation).next = table.allocate.2.next := by
  cases operation with
  | allocate => exact ⟨(Option.some.inj hasked).symm, rfl⟩
  | register name =>
    obtain ⟨hnone, hgiven⟩ := Option.ite_none_right_eq_some.mp hasked
    obtain ⟨hallocate, hnext⟩ := register_of_id?_eq_none hnone
    exact ⟨(Option.some.inj hgiven).symm.trans hallocate, hnext⟩
  | assign | removeId | removeName => cases hasked

/-- Without that the next one stays the same. -/
theorem next_of_allocation?_eq_none (hnot : table.allocation? operation = none) :
    (table.after operation).next = table.next := by
  cases operation with
  | allocate => cases hnot
  | assign id name => exact next_assign table id name
  | register name =>
    cases hid : table.id? name with
    | some id => rw [after, register_of_some hid]
    | none => simp [allocation?, hid] at hnot
  | removeId id => exact next_removeId table id
  | removeName name => exact next_removeName table name

/-- Ids are given out without a gap and up to the last one. After that each attempt fails. -/
theorem toNat_of_allocations {operations : List Operation} {k : Nat} {outcome : Option UInt16}
    (hasked : (table.allocations operations)[k]? = some outcome) :
    outcome.map (·.toNat) = if table.next + k ≤ 65535 then some (table.next + k) else none := by
  induction operations generalizing table k with
  | nil => cases hasked
  | cons operation operations ih =>
    unfold allocations at hasked
    cases hfirst : table.allocation? operation with
    | none =>
      rw [hfirst] at hasked
      rw [← next_of_allocation?_eq_none hfirst]
      exact ih hasked
    | some first =>
      obtain ⟨hgiven, hnext⟩ := allocation?_eq_some hfirst
      rw [hfirst] at hasked
      cases k with
      | zero =>
        obtain rfl : first = outcome := Option.some.inj hasked
        rw [hgiven]
        exact toNat_allocate table
      | succ k =>
        rw [ih (k := k) hasked, hnext, next_allocate]
        by_cases hroom : table.next ≤ 65535
        · rw [if_pos hroom, Nat.add_assoc, Nat.add_comm 1 k]
        · -- Where nothing is left, `next` stays above the end, however often it is asked for.
          rw [if_neg hroom, if_neg (by omega), if_neg (by omega)]

theorem lt_next_of_allocate (hnone : table.allocate.1 = none) : 65535 < table.next := by
  by_contra hroom
  rw [allocate_of_room (Nat.not_lt.mp hroom)] at hnone
  cases hnone

/-- What fails changes nothing. -/
theorem after_of_allocation?_eq_none (hfailed : table.allocation? operation = some none) :
    table.after operation = table := by
  have hfull := lt_next_of_allocate (allocation?_eq_some hfailed).1.symm
  cases operation with
  | allocate => exact congrArg Prod.snd (allocate_of_full hfull)
  | register name =>
    have hnone := (Option.ite_none_right_eq_some.mp hfailed).1
    rw [after, register_of_full hnone hfull]
  | assign | removeId | removeName => cases hfailed

/-! ### Ids that are predefined -/

/-- No operation touches what is predefined. -/
theorem Seeded.after (h : table.Seeded size entries) (operation : Operation) :
    (table.after operation).Seeded size entries := by
  cases operation with
  | allocate => exact h.allocate
  | assign id name => exact h.assign id name
  | register name => exact h.register name
  | removeId id => exact h.removeId id
  | removeName name => exact h.removeName name

/-- Predefined ids keep their names through any operations. -/
theorem Seeded.afterAll (h : table.Seeded size entries) (operations : List Operation) :
    (table.afterAll operations).Seeded size entries := by
  induction operations generalizing table with
  | nil => exact h
  | cons operation operations ih => exact ih (h.after operation)

/-! ### Names that are removed -/

/-- The ids of a name that are not predefined, in order. -/
def aliases (table : Table) (name : String) : List UInt16 :=
  (table.entries.filter fun entry => table.predefinedSize < entry.1 && entry.2 == name).map (·.1)

/-- The ids of a name above the predefined ones are its aliases. -/
theorem mem_aliases (h : Sorted table.entries) :
    id ∈ table.aliases name ↔ table.predefinedSize < id ∧ table.name? id = some name := by
  rw [← mem_entries_iff h]
  simp only [aliases, List.mem_map, List.mem_filter, Bool.and_eq_true, decide_eq_true_eq,
    beq_iff_eq]
  constructor
  · rintro ⟨⟨_, _⟩, ⟨hin, habove, rfl⟩, rfl⟩
    exact ⟨habove, hin⟩
  · rintro ⟨habove, hin⟩
    exact ⟨(id, name), ⟨hin, habove, rfl⟩, rfl⟩

theorem nodup_aliases (h : Sorted table.entries) (name : String) : (table.aliases name).Nodup := by
  refine List.pairwise_map.mpr ((h.sublist List.filter_sublist).imp fun hlt heq => ?_)
  rw [heq] at hlt
  exact UInt16.lt_irrefl _ hlt

/-- As many names are taken away as there are aliases. -/
theorem count_removeName (table : Table) (name : String) :
    (table.removeName name).1 = (table.aliases name).length := by
  let kept (entry : Entry) : Bool := entry.1 ≤ table.predefinedSize || entry.2 != name
  have hgone : table.entries.countP (fun entry => ¬ kept entry = true) =
      table.entries.countP fun entry => table.predefinedSize < entry.1 && entry.2 == name :=
    List.countP_congr fun entry _ => by simp [kept]
  have hsplit := table.entries.length_eq_countP_add_countP kept
  rw [hgone, List.countP_eq_length_filter, List.countP_eq_length_filter] at hsplit
  rw [aliases, List.length_map]
  exact Nat.sub_eq_of_eq_add' hsplit

/-- A name that is removed is left with the predefined id that it has, if any. -/
theorem Seeded.isPredefined_of_removeName (h : table.Seeded size entries)
    (hid : (table.removeName name).2.id? name = some id) : table.isPredefined id = true := by
  have hname := name?_of_id? (h.removeName name).sorted hid
  rw [name?_removeName h.sorted] at hname
  obtain ⟨hbefore, hkept⟩ := Option.filter_eq_some_iff.mp hname
  rw [h.isPredefined_iff]
  constructor
  · rintro rfl
    rw [h.name?_zero] at hbefore
    cases hbefore
  · simpa [h.predefinedSize] using hkept

/-- Removing a name takes it from exactly those ids. -/
theorem name?_removeName_eq_ite (h : Sorted table.entries) (name : String) (id : UInt16) :
    (table.removeName name).2.name? id =
      if id ∈ table.aliases name then none else table.name? id := by
  rw [name?_removeName h]
  cases hname : table.name? id with
  | none => simp
  | some known =>
    by_cases habove : table.predefinedSize < id <;> by_cases hsame : known = name <;>
      simp [Option.filter, mem_aliases h, hname, hsame, habove, ← UInt16.not_lt]

/-! ### The whole life of a table -/

/-- Whatever is done to a table, with whatever arguments: the predefined ids keep the names that
they were told with, the ids above them are given out in order until there are no more, a name
stands for its smallest id, and removing a name takes it from the other ids alone. -/
theorem afterAll_ofPredefined (size : UInt16) (entries : List Entry)
    (operations : List Operation) :
    let start := ofPredefined size entries
    let table := start.afterAll operations
    (table.name? 0 = none ∧
      ∀ id, id ≠ 0 → id ≤ size →
        table.name? id = (entries.reverse.find? (·.1 == id)).map (·.2)) ∧
    ((∀ k outcome, (start.allocations operations)[k]? = some outcome →
        outcome.map (·.toNat) =
          if size.toNat + 1 + k ≤ 65535 then some (size.toNat + 1 + k) else none) ∧
      ∀ operation, table.allocation? operation = some none → table.after operation = table) ∧
    (∀ name,
      (∀ id, table.id? name = some id ↔
        table.name? id = some name ∧ ∀ other, table.name? other = some name → id ≤ other) ∧
      ((table.id? name).getD 0 = 0 ↔ ∀ id, table.name? id ≠ some name) ∧
      ∀ id known, id ≤ size → table.name? id = some name → table.id? name = some known →
        known ≠ 0 ∧ known ≤ size) ∧
    ∀ name,
      (∀ id, (table.removeName name).2.name? id =
        if size < id ∧ table.name? id = some name then none else table.name? id) ∧
      (∃ removed : List UInt16, removed.Nodup ∧
        (∀ id, id ∈ removed ↔ size < id ∧ table.name? id = some name) ∧
        (table.removeName name).1 = removed.length) ∧
      ∀ id, (table.removeName name).2.id? name = some id → id ≠ 0 ∧ id ≤ size := by
  intro start table
  have hseeded : table.Seeded size entries := (seeded_ofPredefined size entries).afterAll operations
  have hsorted := hseeded.sorted
  have hmem (name : String) (id : UInt16) :
      id ∈ table.aliases name ↔ size < id ∧ table.name? id = some name := by
    rw [mem_aliases hsorted, hseeded.predefinedSize]
  have hzero {id : UInt16} {name : String} (hname : table.name? id = some name) : id ≠ 0 := by
    rintro rfl
    cases hseeded.name?_zero.symm.trans hname
  refine ⟨⟨hseeded.name?_zero, fun id hid hrange => ?_⟩, ⟨fun k outcome hasked => ?_,
    fun _ => after_of_allocation?_eq_none⟩, fun name => ⟨fun id => id?_eq_some_iff hsorted, ?_,
    fun id known hrange hname hknown => ?_⟩, fun name => ⟨fun id => ?_,
    ⟨table.aliases name, nodup_aliases hsorted name, hmem name, count_removeName table name⟩,
    fun id hid => hseeded.isPredefined_iff.mp (hseeded.isPredefined_of_removeName hid)⟩⟩
  · rw [hseeded.names id hrange, seedName?, if_neg hid]
  · rw [toNat_of_allocations hasked, next_ofPredefined]
  · rw [← id?_eq_none_iff hsorted]
    cases hid : table.id? name with
    | none => simp
    | some id => simpa using hzero (name?_of_id? hsorted hid)
  · obtain ⟨hknownName, hleast⟩ := (id?_eq_some_iff hsorted).mp hknown
    exact ⟨hzero hknownName, UInt16.le_trans (hleast id hname) hrange⟩
  · rw [name?_removeName_eq_ite hsorted]
    simp only [hmem]

/-- An alias of a predefined name, which gives way to it and goes when the name is removed. -/
theorem afterAll_ofPredefined_alias :
    let table := (ofPredefined 1 [(1, "a"), (1, "b"), (9, "c")]).afterAll
      [.register "x", .assign 7 "b"]
    table.name? 1 = some "b" ∧ (1 : UInt16) ≠ 0 ∧ table.name? 7 = some "b" ∧
      (table.removeName "b").2.name? 7 = none := by
  obtain ⟨⟨-, hpredefined⟩, -, -, hremoved⟩ := afterAll_ofPredefined 1
    [(1, "a"), (1, "b"), (9, "c")] [.register "x", .assign 7 "b"]
  intro table
  have halias : table.name? 7 = some "b" := by decide
  refine ⟨hpredefined 1 (by decide) (by decide), by decide, halias, ?_⟩
  rw [(hremoved "b").1 7]
  exact if_pos ⟨by decide, halias⟩

end Table

end SensorGateway.Topic
