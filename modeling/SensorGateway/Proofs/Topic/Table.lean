import Mathlib.Data.List.Induction
import SensorGateway.Config.Basic

/-!
What the operations of a topic table do to the names of its ids. Each of them is
told by one equation for `name?`; only taking a name from all of its ids needs
that no id stands in the table twice, which the order of the entries sees to.
-/

namespace SensorGateway

/-- The name that the configuration tells for an id. Of several the last one
counts. -/
def Config.predefinedName? (config : Config) (id : UInt16) : Option String :=
  (config.predefinedTopics.reverse.find? (·.id == id)).map (·.name)

namespace Topic

/-! ### Entries -/

theorem find?_insertEntry_self (id : UInt16) (name : String) (entries : List Entry) :
    (insertEntry id name entries).find? (·.1 == id) = some (id, name) := by
  induction entries with
  | nil => simp [insertEntry]
  | cons entry entries ih =>
    unfold insertEntry
    split
    · simp
    · split
      · simp
      next hne =>
        have hkey : (entry.1 == id) = false := by
          rw [beq_eq_false_iff_ne]
          exact fun heq => hne heq.symm
        rw [List.find?_cons, hkey]
        exact ih

theorem find?_insertEntry_other {id other : UInt16} (h : other ≠ id) (name : String)
    (entries : List Entry) :
    (insertEntry id name entries).find? (·.1 == other) = entries.find? (·.1 == other) := by
  have hkey : (id == other) = false := beq_eq_false_iff_ne.mpr h.symm
  induction entries with
  | nil => simp [insertEntry, hkey]
  | cons entry entries ih =>
    unfold insertEntry
    split
    · simp [hkey]
    · split
      next heq =>
        rw [List.find?_cons, List.find?_cons, hkey, ← heq, hkey]
      next => rw [List.find?_cons, List.find?_cons, ih]

theorem mem_insertEntry {id : UInt16} {name : String} {entries : List Entry} {entry : Entry}
    (h : entry ∈ insertEntry id name entries) : entry = (id, name) ∨ entry ∈ entries := by
  induction entries with
  | nil => exact .inl (List.mem_singleton.mp h)
  | cons first entries ih =>
    unfold insertEntry at h
    split at h
    · exact List.mem_cons.mp h
    · split at h
      · exact (List.mem_cons.mp h).imp_right (List.mem_cons_of_mem _)
      · rcases List.mem_cons.mp h with heq | hrest
        · exact .inr (heq ▸ List.mem_cons_self)
        · exact (ih hrest).imp_right (List.mem_cons_of_mem _)

def Sorted (entries : List Entry) : Prop :=
  entries.Pairwise fun first second => first.1 < second.1

theorem Sorted.insertEntry {entries : List Entry} (h : Sorted entries) (id : UInt16)
    (name : String) : Sorted (insertEntry id name entries) := by
  induction entries with
  | nil => exact List.pairwise_singleton _ _
  | cons first entries ih =>
    obtain ⟨hfirst, hrest⟩ := List.pairwise_cons.mp h
    unfold Topic.insertEntry
    split
    next hbefore =>
      refine List.pairwise_cons.mpr ⟨fun entry hin => ?_, h⟩
      rcases List.mem_cons.mp hin with rfl | hlater
      · exact hbefore
      · exact UInt16.lt_trans hbefore (hfirst entry hlater)
    next hnot =>
      split
      next heq => exact List.pairwise_cons.mpr ⟨heq ▸ hfirst, hrest⟩
      next hne =>
        refine List.pairwise_cons.mpr ⟨fun entry hin => ?_, ih hrest⟩
        rcases mem_insertEntry hin with rfl | hlater
        · exact UInt16.lt_of_le_of_ne (UInt16.not_lt.mp hnot) (Ne.symm hne)
        · exact hfirst entry hlater

/-- An entry is found under its id. -/
theorem Sorted.find?_of_mem {entries : List Entry} (h : Sorted entries) {entry : Entry}
    (hin : entry ∈ entries) : entries.find? (·.1 == entry.1) = some entry := by
  induction entries with
  | nil => cases hin
  | cons first entries ih =>
    obtain ⟨hfirst, hrest⟩ := List.pairwise_cons.mp h
    rcases List.mem_cons.mp hin with rfl | hlater
    · simp
    · have hkey : (first.1 == entry.1) = false :=
        beq_eq_false_iff_ne.mpr (UInt16.ne_of_lt (hfirst entry hlater))
      rw [List.find?_cons, hkey]
      exact ih hrest hlater

theorem Sorted.le_of_find? {entries : List Entry} (h : Sorted entries) {wanted : Entry → Bool}
    {first other : Entry} (hfirst : entries.find? wanted = some first) (hin : other ∈ entries)
    (hwanted : wanted other = true) : first.1 ≤ other.1 := by
  obtain ⟨-, before, later, rfl, hbefore⟩ := List.find?_eq_some_iff_append.mp hfirst
  rcases List.mem_append.mp hin with hin | hin
  · have hnot := hbefore other hin
    rw [hwanted] at hnot
    cases hnot
  · rcases List.mem_cons.mp hin with rfl | hlater
    · exact UInt16.le_refl _
    · have hsorted := (List.pairwise_append.mp h).2.1
      exact UInt16.le_of_lt (List.rel_of_pairwise_cons hsorted hlater)

/-- In order, an id stands in the table once, so that what is left of it after
some entries are taken away is what is left of its only entry. -/
theorem Sorted.find?_filter {entries : List Entry} (h : Sorted entries) (keeps : Entry → Bool)
    (id : UInt16) :
    (entries.filter keeps).find? (·.1 == id) = (entries.find? (·.1 == id)).filter keeps := by
  induction entries with
  | nil => rfl
  | cons first entries ih =>
    obtain ⟨hfirst, hrest⟩ := List.pairwise_cons.mp h
    by_cases hid : first.1 = id
    · have hnone : (entries.filter keeps).find? (·.1 == id) = none := by
        rw [List.find?_eq_none]
        intro entry hin hsame
        have hlater := hfirst entry (List.mem_filter.mp hin).1
        rw [hid, eq_of_beq hsame] at hlater
        exact UInt16.lt_irrefl id hlater
      cases hkeeps : keeps first with
      | true => simp [Option.filter, hkeeps, hid]
      | false => simp [Option.filter, hkeeps, hid, hnone]
    · have hkey : (first.1 == id) = false := beq_eq_false_iff_ne.mpr hid
      cases hkeeps : keeps first with
      | true => simp [hkeeps, hkey, ih hrest]
      | false => simp [hkeeps, hkey, ih hrest]

namespace Table

variable {table : Table} {id : UInt16} {name : String}

/-- The entries of a table are its names. -/
theorem mem_entries_iff (h : Sorted table.entries) :
    (id, name) ∈ table.entries ↔ table.name? id = some name := by
  unfold name?
  constructor
  · intro hin
    rw [h.find?_of_mem hin, Option.map_some]
  · intro hsome
    obtain ⟨⟨other, known⟩, hfound, rfl⟩ := Option.map_eq_some_iff.mp hsome
    have hother : other = id := by simpa using List.find?_some hfound
    rw [← hother]
    exact List.mem_of_find?_eq_some hfound

/-! ### Operations -/

/-- The table with a name under an id. -/
theorem name?_insert (table : Table) (id other : UInt16) (name : String) :
    name? { table with entries := insertEntry id name table.entries } other =
      if other = id then some name else table.name? other := by
  unfold name?
  split
  next heq => rw [heq, find?_insertEntry_self, Option.map_some]
  next hne => rw [find?_insertEntry_other hne]

/-- An id has the name that it was assigned last, and no other id is touched. -/
theorem name?_assign (hid : id ≠ 0) (hfree : table.isPredefined id = false) (name : String)
    (other : UInt16) :
    (table.assign id name).2.name? other = if other = id then some name else table.name? other := by
  have hgranted : (id == 0 || table.isPredefined id) = false := by simp [hid, hfree]
  unfold assign
  rw [hgranted]
  exact name?_insert table id other name

theorem name?_filter (h : Sorted table.entries) (keeps : Entry → Bool) (id : UInt16) :
    name? { table with entries := table.entries.filter keeps } id =
      (table.name? id).filter fun name => keeps (id, name) := by
  unfold name?
  rw [h.find?_filter]
  cases hfound : table.entries.find? (·.1 == id) with
  | none => rfl
  | some entry =>
    have hid : entry.1 = id := by simpa using List.find?_some hfound
    subst hid
    cases hkeeps : keeps entry <;> simp [Option.filter, hkeeps]

theorem name?_removeId (h : Sorted table.entries) (hfree : table.isPredefined id = false)
    (other : UInt16) :
    (table.removeId id).2.name? other = if other = id then none else table.name? other := by
  unfold removeId
  rw [hfree]
  refine (name?_filter h (·.1 != id) other).trans ?_
  cases table.name? other with
  | none => simp
  | some name => by_cases hsame : other = id <;> simp [Option.filter, hsame]

/-- A name is taken from all of its ids but the predefined ones. -/
theorem name?_removeName (h : Sorted table.entries) (name : String) (id : UInt16) :
    (table.removeName name).2.name? id =
      (table.name? id).filter fun known => id ≤ table.predefinedSize || known != name :=
  name?_filter h _ id

theorem allocate_of_room (hnext : table.next ≤ 65535) :
    table.allocate = (some (UInt16.ofNat table.next), { table with next := table.next + 1 }) :=
  if_neg (Nat.not_lt.mpr hnext)

/-- There are no ids after 65535. -/
theorem allocate_of_full (hnext : 65535 < table.next) : table.allocate = (none, table) :=
  if_pos hnext

/-- The next id is given out, unless the ids have come to their end. -/
theorem toNat_allocate (table : Table) :
    table.allocate.1.map (·.toNat) = if table.next ≤ 65535 then some table.next else none := by
  by_cases hnext : table.next ≤ 65535
  · have htoNat : (UInt16.ofNat table.next).toNat = table.next :=
      UInt16.toNat_ofNat_of_lt' (Nat.lt_succ_of_le hnext)
    rw [allocate_of_room hnext, if_pos hnext, Option.map_some, htoNat]
  · rw [allocate_of_full (Nat.not_le.mp hnext), if_neg hnext, Option.map_none]

/-- A name that has an id keeps it. -/
theorem register_of_some (hid : table.id? name = some id) :
    table.register name = (some id, table) := by
  rw [register, hid]

theorem register_of_room (hid : table.id? name = none) (hnext : table.next ≤ 65535) :
    table.register name = (some (UInt16.ofNat table.next),
      (assign { table with next := table.next + 1 } (UInt16.ofNat table.next) name).2) := by
  rw [register, hid, allocate_of_room hnext]

theorem register_of_full (hid : table.id? name = none) (hnext : 65535 < table.next) :
    table.register name = (none, table) := by
  rw [register, hid, allocate_of_full hnext]

/-- A name that has no id yet gets the next one, as long as there is one. -/
theorem register_eq (table : Table) (name : String) :
    (table.register name).2 = table ∨
      table.next ≤ 65535 ∧ (table.register name).2 =
        (assign { table with next := table.next + 1 } (UInt16.ofNat table.next) name).2 := by
  cases hid : table.id? name with
  | some id => exact .inl (congrArg Prod.snd (register_of_some hid))
  | none =>
    by_cases hnext : table.next ≤ 65535
    · exact .inr ⟨hnext, congrArg Prod.snd (register_of_room hid hnext)⟩
    · exact .inl (congrArg Prod.snd (register_of_full hid (Nat.not_le.mp hnext)))

@[simp] theorem next_assign (table : Table) (id : UInt16) (name : String) :
    (table.assign id name).2.next = table.next := by
  unfold assign
  split <;> rfl

@[simp] theorem next_removeId (table : Table) (id : UInt16) :
    (table.removeId id).2.next = table.next := by
  unfold removeId
  split <;> rfl

@[simp] theorem next_removeName (table : Table) (name : String) :
    (table.removeName name).2.next = table.next :=
  rfl

/-! ### The predefined topics -/

theorem ofPredefined_snoc (size : UInt16) (entries : List Entry) (entry : Entry) :
    ofPredefined size (entries ++ [entry]) =
      if (ofPredefined size entries).isPredefined entry.1 then
        { ofPredefined size entries with
          entries := insertEntry entry.1 entry.2 (ofPredefined size entries).entries }
      else ofPredefined size entries := by
  unfold ofPredefined
  rw [List.foldl_append]
  rfl

theorem predefinedSize_ofPredefined (size : UInt16) (entries : List Entry) :
    (ofPredefined size entries).predefinedSize = size := by
  induction entries using List.reverseRecOn with
  | nil => rfl
  | append_singleton entries entry ih =>
    rw [ofPredefined_snoc]
    split <;> exact ih

theorem next_ofPredefined (size : UInt16) (entries : List Entry) :
    (ofPredefined size entries).next = size.toNat + 1 := by
  induction entries using List.reverseRecOn with
  | nil => rfl
  | append_singleton entries entry ih =>
    rw [ofPredefined_snoc]
    split <;> exact ih

theorem sorted_ofPredefined (size : UInt16) (entries : List Entry) :
    Sorted (ofPredefined size entries).entries := by
  induction entries using List.reverseRecOn with
  | nil => exact List.Pairwise.nil
  | append_singleton entries entry ih =>
    rw [ofPredefined_snoc]
    split
    · exact ih.insertEntry entry.1 entry.2
    · exact ih

/-- A predefined id has the name that was told last, and no other id has one. -/
theorem name?_ofPredefined (size : UInt16) (entries : List Entry) (id : UInt16) :
    (ofPredefined size entries).name? id =
      if (empty size).isPredefined id then
        (entries.reverse.find? (·.1 == id)).map (·.2)
      else none := by
  induction entries using List.reverseRecOn with
  | nil => split <;> rfl
  | append_singleton entries entry ih =>
    have hrange : (ofPredefined size entries).isPredefined entry.1 =
        (empty size).isPredefined entry.1 := by
      unfold isPredefined
      rw [predefinedSize_ofPredefined]
      rfl
    rw [ofPredefined_snoc, hrange, List.reverse_append, List.reverse_singleton,
      List.singleton_append, List.find?_cons]
    cases hentry : (empty size).isPredefined entry.1 with
    | true =>
      rw [if_pos rfl, name?_insert, ih]
      by_cases hid : id = entry.1
      · simp [hid, hentry]
      · have hkey : (entry.1 == id) = false := beq_eq_false_iff_ne.mpr (Ne.symm hid)
        rw [if_neg hid, hkey]
    | false =>
      rw [if_neg Bool.false_ne_true, ih]
      split
      next hpredefined =>
        have hkey : (entry.1 == id) = false := by
          rw [beq_eq_false_iff_ne]
          rintro rfl
          rw [hentry] at hpredefined
          cases hpredefined
        rw [hkey]
      next => rfl

/-! ### What is predefined -/

/-- The name that an id is told with. Of several the last one counts. -/
def seedName? (entries : List Entry) (id : UInt16) : Option String :=
  if id = 0 then none else (entries.reverse.find? (·.1 == id)).map (·.2)

/-- The ids up to `size` have their names from these entries, and 0 has none. -/
structure Seeded (size : UInt16) (entries : List Entry) (table : Table) : Prop where
  predefinedSize : table.predefinedSize = size
  sorted : Sorted table.entries
  names : ∀ id ≤ size, table.name? id = seedName? entries id

variable {size : UInt16} {entries : List Entry}

/-- A table knows the names that it was made with. -/
theorem seeded_ofPredefined (size : UInt16) (entries : List Entry) :
    (ofPredefined size entries).Seeded size entries := by
  refine ⟨predefinedSize_ofPredefined size entries, sorted_ofPredefined size entries,
    fun id hrange => ?_⟩
  rw [name?_ofPredefined]
  by_cases hid : id = 0 <;> simp [isPredefined, empty, seedName?, hid, hrange]

theorem Seeded.isPredefined_iff (h : table.Seeded size entries) :
    table.isPredefined id = true ↔ id ≠ 0 ∧ id ≤ size := by
  simp [isPredefined, h.predefinedSize]

theorem Seeded.name?_zero (h : table.Seeded size entries) : table.name? 0 = none :=
  h.names 0 (UInt16.zero_le)

/-- Assigning a name leaves predefined ids alone. -/
theorem Seeded.assign (h : table.Seeded size entries) (id : UInt16) (name : String) :
    (table.assign id name).2.Seeded size entries := by
  unfold Table.assign
  split
  · exact h
  next hgranted =>
    simp only [Bool.or_eq_true, beq_iff_eq, not_or, h.isPredefined_iff, not_and,
      UInt16.not_le] at hgranted
    obtain ⟨hzero, habove⟩ := hgranted
    refine ⟨h.predefinedSize, h.sorted.insertEntry id name, fun other hrange => ?_⟩
    have hother : other ≠ id := by
      rintro rfl
      exact UInt16.not_le.mpr (habove hzero) hrange
    rw [name?_insert, if_neg hother]
    exact h.names other hrange

theorem Seeded.filter (h : table.Seeded size entries) (keeps : Entry → Bool)
    (hkeeps : ∀ entry : Entry, entry.1 ≠ 0 → entry.1 ≤ size → keeps entry = true) :
    Seeded size entries { table with entries := table.entries.filter keeps } := by
  refine ⟨h.predefinedSize, h.sorted.sublist List.filter_sublist, fun id hrange => ?_⟩
  rw [name?_filter h.sorted, h.names id hrange]
  by_cases hid : id = 0
  · simp [seedName?, hid]
  · have hall (name : String) : keeps (id, name) = true := hkeeps (id, name) hid hrange
    cases seedName? entries id <;> simp [Option.filter, hall]

theorem Seeded.allocate (h : table.Seeded size entries) : table.allocate.2.Seeded size entries := by
  unfold Table.allocate
  split
  · exact h
  · exact ⟨h.predefinedSize, h.sorted, h.names⟩

theorem Seeded.register (h : table.Seeded size entries) (name : String) :
    (table.register name).2.Seeded size entries := by
  rcases register_eq table name with hsame | ⟨-, hgiven⟩
  · rw [hsame]
    exact h
  · have hallocated : Seeded size entries { table with next := table.next + 1 } :=
      ⟨h.predefinedSize, h.sorted, h.names⟩
    rw [hgiven]
    exact hallocated.assign (UInt16.ofNat table.next) name

theorem Seeded.removeId (h : table.Seeded size entries) (id : UInt16) :
    (table.removeId id).2.Seeded size entries := by
  unfold Table.removeId
  split
  · exact h
  next hfree =>
    refine h.filter (·.1 != id) fun entry hzero hrange => bne_iff_ne.mpr ?_
    rintro rfl
    exact hfree (h.isPredefined_iff.mpr ⟨hzero, hrange⟩)

theorem Seeded.removeName (h : table.Seeded size entries) (name : String) :
    (table.removeName name).2.Seeded size entries := by
  refine h.filter (fun entry => entry.1 ≤ table.predefinedSize || entry.2 != name) ?_
  intro entry _ hrange
  simp [h.predefinedSize, hrange]

/-! ### Proper tables -/

/-- A table as every session of this configuration has it: what is predefined is
as configured, and above the predefined ids there is nothing but ids that were
given out. -/
structure Proper (config : Config) (table : Table) : Prop where
  size : table.predefinedSize = config.predefinedTopicIdSize
  sorted : Sorted table.entries
  room : config.predefinedTopicIdSize.toNat < table.next
  predefined : ∀ id, table.isPredefined id = true → table.name? id = config.predefinedName? id
  given : ∀ id name, table.name? id = some name → id ≠ 0 ∧ id.toNat < table.next

variable {config : Config}

theorem Proper.isPredefined_iff (h : table.Proper config) :
    table.isPredefined id = true ↔ id ≠ 0 ∧ id ≤ config.predefinedTopicIdSize := by
  simp [isPredefined, h.size]

/-- An id above the predefined ones. -/
theorem Proper.isPredefined_of_lt (h : table.Proper config)
    (hid : config.predefinedTopicIdSize < id) : table.isPredefined id = false := by
  rw [Bool.eq_false_iff, ne_eq, h.isPredefined_iff]
  exact fun hpredefined => UInt16.not_le.mpr hid hpredefined.2

theorem ne_zero_of_lt {size id : UInt16} (h : size < id) : id ≠ 0 := by
  rintro rfl
  exact UInt16.not_lt_zero h

theorem seedName?_predefinedEntries (config : Config) (hid : id ≠ 0) :
    seedName? config.predefinedEntries id = config.predefinedName? id := by
  rw [seedName?, if_neg hid, Config.predefinedEntries, ← List.map_reverse, List.find?_map,
    Option.map_map]
  rfl

theorem Proper.seeded (h : table.Proper config) :
    table.Seeded config.predefinedTopicIdSize config.predefinedEntries := by
  refine ⟨h.size, h.sorted, fun id hrange => ?_⟩
  by_cases hid : id = 0
  · rw [seedName?, if_pos hid, Option.eq_none_iff_forall_ne_some]
    exact fun name hsome => (h.given id name hsome).1 hid
  · rw [seedName?_predefinedEntries config hid]
    exact h.predefined id (h.isPredefined_iff.mpr ⟨hid, hrange⟩)

/-- Of a table in which what is predefined is as configured, it is the other ids that are left to
look at. -/
theorem Seeded.proper (h : table.Seeded config.predefinedTopicIdSize config.predefinedEntries)
    (hroom : config.predefinedTopicIdSize.toNat < table.next)
    (hgiven : ∀ id name, table.name? id = some name → id.toNat < table.next) :
    table.Proper config := by
  refine ⟨h.predefinedSize, h.sorted, hroom, fun id hpredefined => ?_, fun id name hsome => ?_⟩
  · obtain ⟨hid, hrange⟩ := h.isPredefined_iff.mp hpredefined
    rw [h.names id hrange, seedName?_predefinedEntries config hid]
  · refine ⟨?_, hgiven id name hsome⟩
    rintro rfl
    rw [h.name?_zero] at hsome
    cases hsome

/-- The table of a configuration is proper. -/
theorem proper_topicTable (config : Config) : config.topicTable.Proper config := by
  have hnext : config.topicTable.next = config.predefinedTopicIdSize.toNat + 1 :=
    next_ofPredefined _ _
  refine (seeded_ofPredefined _ _).proper ?_ fun id name hsome => ?_
  · exact hnext ▸ Nat.lt_succ_self _
  · rw [name?_ofPredefined] at hsome
    split at hsome
    next hpredefined =>
      obtain ⟨-, hrange⟩ := (seeded_ofPredefined _ []).isPredefined_iff.mp hpredefined
      exact hnext ▸ Nat.lt_succ_of_le (UInt16.le_iff_toNat_le.mp hrange)
    next => cases hsome

/-- A name is put under an id that was given out. -/
theorem Proper.assign (h : table.Proper config) (hid : config.predefinedTopicIdSize < id)
    (hnext : id.toNat < table.next) (name : String) : (table.assign id name).2.Proper config := by
  refine (h.seeded.assign id name).proper ?_ fun other known hsome => ?_
  · rw [next_assign]
    exact h.room
  · rw [name?_assign (ne_zero_of_lt hid) (h.isPredefined_of_lt hid)] at hsome
    rw [next_assign]
    split at hsome
    next heq => exact heq ▸ hnext
    next => exact (h.given other known hsome).2

/-- An id is given out. -/
theorem Proper.allocate (h : table.Proper config) :
    Proper config { table with next := table.next + 1 } :=
  ⟨h.size, h.sorted, Nat.lt_succ_of_lt h.room, h.predefined,
    fun id name hsome => (h.given id name hsome).imp_right Nat.lt_succ_of_lt⟩

/-- The id that is given out next. -/
theorem Proper.lt_next (h : table.Proper config) (hnext : table.next ≤ 65535) :
    config.predefinedTopicIdSize < UInt16.ofNat table.next ∧
      (UInt16.ofNat table.next).toNat = table.next := by
  have htoNat : (UInt16.ofNat table.next).toNat = table.next :=
    UInt16.toNat_ofNat_of_lt' (Nat.lt_succ_of_le hnext)
  refine ⟨?_, htoNat⟩
  rw [UInt16.lt_iff_toNat_lt, htoNat]
  exact h.room

/-- A name that is registered gets an id that is proper. -/
theorem Proper.register (h : table.Proper config) (name : String) :
    (table.register name).2.Proper config := by
  rcases register_eq table name with hsame | ⟨hnext, hgiven⟩
  · rw [hsame]
    exact h
  · obtain ⟨hid, htoNat⟩ := h.lt_next hnext
    have hbelow : (UInt16.ofNat table.next).toNat < table.next + 1 := by
      rw [htoNat]
      exact Nat.lt_succ_self _
    rw [hgiven]
    exact h.allocate.assign hid hbelow name

/-- Giving a name an id does not touch those that were given out before. -/
theorem Proper.name?_register (h : table.Proper config) (name : String)
    (hid : id.toNat < table.next) : (table.register name).2.name? id = table.name? id := by
  rcases register_eq table name with hsame | ⟨hnext, hgiven⟩
  · rw [hsame]
  · obtain ⟨hfresh, htoNat⟩ := h.lt_next hnext
    have hother : id ≠ UInt16.ofNat table.next := by
      rintro rfl
      rw [htoNat] at hid
      exact Nat.lt_irrefl _ hid
    rw [hgiven, name?_assign (ne_zero_of_lt hfresh) (h.allocate.isPredefined_of_lt hfresh),
      if_neg hother]
    rfl

/-- An id that a name is under was under it before, or the name had no id and got this one, which
is then the next one. -/
theorem Proper.name?_of_register (h : table.Proper config) {known : String}
    (hsome : (table.register name).2.name? id = some known) :
    table.name? id = some known ∨ known = name ∧ table.id? name = none ∧
      (table.register name).1 = some id ∧ id.toNat = table.next := by
  cases hid : table.id? name with
  | some other =>
    rw [register_of_some hid] at hsome
    exact .inl hsome
  | none =>
    rcases register_eq table name with hsame | ⟨hnext, hgiven⟩
    · exact .inl (hsame ▸ hsome)
    · obtain ⟨hfresh, htoNat⟩ := h.lt_next hnext
      rw [hgiven, name?_assign (ne_zero_of_lt hfresh) (h.allocate.isPredefined_of_lt hfresh)]
        at hsome
      split at hsome
      next heq =>
        refine .inr ⟨(Option.some.inj hsome).symm, rfl, ?_, heq ▸ htoNat⟩
        rw [register_of_room hid hnext, heq]
      next => exact .inl hsome

/-- Ids are given out upwards. -/
theorem next_le_register (table : Table) (name : String) :
    table.next ≤ (table.register name).2.next := by
  rcases register_eq table name with hsame | ⟨hnext, hgiven⟩
  · exact Nat.le_of_eq (congrArg Table.next hsame.symm)
  · rw [hgiven, next_assign]
    exact Nat.le_succ _

/-- Only the id itself loses its name. -/
theorem Proper.name?_removeId_of_ne (h : table.Proper config) {other : UInt16}
    (hother : other ≠ id) : (table.removeId id).2.name? other = table.name? other := by
  cases hfree : table.isPredefined id with
  | true =>
    unfold Table.removeId
    rw [if_pos hfree]
  | false => rw [name?_removeId h.sorted hfree, if_neg hother]

theorem Proper.name?_of_removeId (h : table.Proper config) {other : UInt16} {name : String}
    (hsome : (table.removeId id).2.name? other = some name) : table.name? other = some name := by
  cases hfree : table.isPredefined id with
  | true =>
    unfold Table.removeId at hsome
    rwa [if_pos hfree] at hsome
  | false =>
    rw [name?_removeId h.sorted hfree] at hsome
    split at hsome
    · cases hsome
    · exact hsome

theorem Proper.removeId (h : table.Proper config) (id : UInt16) :
    (table.removeId id).2.Proper config := by
  refine (h.seeded.removeId id).proper ?_ fun other name hsome => ?_
  · rw [next_removeId]
    exact h.room
  · rw [next_removeId]
    exact (h.given other name (h.name?_of_removeId hsome)).2

theorem Proper.removeName (h : table.Proper config) (name : String) :
    (table.removeName name).2.Proper config := by
  refine (h.seeded.removeName name).proper h.room fun id known hsome => ?_
  rw [name?_removeName h.sorted] at hsome
  exact (h.given id known (Option.eq_some_of_filter_eq_some hsome)).2

/-! ### The names in a table -/

def Holds (table : Table) (name : String) : Prop :=
  ∃ id, (id, name) ∈ table.entries

variable {known : String}

theorem holds_of_name? (h : table.name? id = some name) : table.Holds name := by
  obtain ⟨entry, hfound, rfl⟩ := Option.map_eq_some_iff.mp h
  exact ⟨entry.1, List.mem_of_find?_eq_some hfound⟩

theorem holds_insert (h : Holds { table with entries := insertEntry id name table.entries } known) :
    known = name ∨ table.Holds known := by
  obtain ⟨other, hin⟩ := h
  rcases mem_insertEntry hin with heq | hold
  · exact .inl (Prod.mk.inj heq).2
  · exact .inr ⟨other, hold⟩

theorem holds_assign (h : (table.assign id name).2.Holds known) :
    known = name ∨ table.Holds known := by
  unfold assign at h
  split at h
  · exact .inr h
  · exact holds_insert h

/-- Registering a name brings no other into the table. -/
theorem holds_register (h : (table.register name).2.Holds known) :
    known = name ∨ table.Holds known := by
  rcases register_eq table name with hsame | ⟨-, hgiven⟩
  · exact .inr (hsame ▸ h)
  · rw [hgiven] at h
    exact (holds_assign h).imp_right fun hold => hold

theorem holds_filter {keeps : Entry → Bool}
    (h : Holds { table with entries := table.entries.filter keeps } known) : table.Holds known := by
  obtain ⟨id, hin⟩ := h
  exact ⟨id, (List.mem_filter.mp hin).1⟩

theorem holds_removeId (h : (table.removeId id).2.Holds known) : table.Holds known := by
  unfold removeId at h
  split at h
  · exact h
  · exact holds_filter h

theorem holds_removeName (h : (table.removeName name).2.Holds known) : table.Holds known :=
  holds_filter h

/-- At first there are only predefined names. -/
theorem holds_ofPredefined {size : UInt16} {entries : List Entry}
    (h : (ofPredefined size entries).Holds name) : ∃ id, (id, name) ∈ entries := by
  induction entries using List.reverseRecOn with
  | nil => exact h
  | append_singleton entries entry ih =>
    have hearlier (h : (ofPredefined size entries).Holds name) :
        ∃ id, (id, name) ∈ entries ++ [entry] := by
      obtain ⟨id, hin⟩ := ih h
      exact ⟨id, List.mem_append_left _ hin⟩
    rw [ofPredefined_snoc] at h
    split at h
    · rcases holds_insert h with rfl | hold
      · exact ⟨entry.1, List.mem_append_right _ (List.mem_singleton_self entry)⟩
      · exact hearlier hold
    · exact hearlier h

end Table

end Topic

end SensorGateway
