import SensorGateway.Proofs.Topic.Table
import SensorGateway.Topic.Resolve

/-!
How a name is told to a device. A reference is a topic id of one of three types,
and what it denotes is fixed by the table, or by its two bytes. The gateway picks
one of them, and finds one whenever there is any.
-/

namespace SensorGateway.Topic

/-- A name has a short id just where it is two bytes long. -/
theorem shortId?_eq_some {name : String} {id : UInt16} :
    shortId? name = some id ↔
      ∃ first second, Text.bytes name = [first, second] ∧ id = Word.join first second := by
  unfold shortId?
  constructor
  · intro h
    split at h
    next first second hbytes => exact ⟨first, second, hbytes, (Option.some.inj h).symm⟩
    next => cases h
  · rintro ⟨first, second, hbytes, rfl⟩
    rw [hbytes]

namespace Table

variable {table : Table} {type : Sensor.TopicIdType} {id : UInt16} {name : String}

/-- How a name is told to a device: by its smallest id, or else by its two bytes. -/
def reference? (table : Table) (name : String) : Option (Sensor.TopicIdType × UInt16) :=
  match table.id? name with
  | some id => some (if table.isPredefined id then .predefined else .normal, id)
  | none => (Topic.shortId? name).map fun id => (.short, id)

/-- The name that a device takes an id of this type for. -/
def Denotes (table : Table) (type : Sensor.TopicIdType) (id : UInt16) (name : String) : Prop :=
  match type with
  | .normal => table.isPredefined id = false ∧ table.name? id = some name
  | .predefined => table.isPredefined id = true ∧ table.name? id = some name
  | .short => ∃ first second, Text.bytes name = [first, second] ∧ id = Word.join first second

def Refers (table : Table) (name : String) : Prop :=
  ∃ type id, table.Denotes type id name

theorem name?_of_id? (h : Sorted table.entries) (hid : table.id? name = some id) :
    table.name? id = some name := by
  obtain ⟨entry, hfound, rfl⟩ := Option.map_eq_some_iff.mp hid
  have hname : entry.2 = name := by simpa using List.find?_some hfound
  rw [name?, h.find?_of_mem (List.mem_of_find?_eq_some hfound), Option.map_some, hname]

theorem name?_ne_of_id?_eq_none (hnone : table.id? name = none) (id : UInt16) :
    table.name? id ≠ some name := by
  intro hname
  obtain ⟨entry, hfound, rfl⟩ := Option.map_eq_some_iff.mp hname
  have hother := List.find?_eq_none.mp (Option.map_eq_none_iff.mp hnone) entry
    (List.mem_of_find?_eq_some hfound)
  simp at hother

/-- The id of a name is the smallest of those that it has. -/
theorem id?_eq_some_iff (h : Sorted table.entries) :
    table.id? name = some id ↔
      table.name? id = some name ∧ ∀ other, table.name? other = some name → id ≤ other := by
  have hleast {id : UInt16} (hid : table.id? name = some id) (other : UInt16)
      (hother : table.name? other = some name) : id ≤ other := by
    obtain ⟨entry, hfound, rfl⟩ := Option.map_eq_some_iff.mp hid
    exact h.le_of_find? hfound ((mem_entries_iff h).mpr hother) (beq_self_eq_true name)
  constructor
  · exact fun hid => ⟨name?_of_id? h hid, hleast hid⟩
  · rintro ⟨hname, hsmallest⟩
    cases hid : table.id? name with
    | none => exact (name?_ne_of_id?_eq_none hid id hname).elim
    | some known =>
      have hsame : known = id :=
        UInt16.le_antisymm (hleast hid id hname) (hsmallest known (name?_of_id? h hid))
      rw [hsame]

/-- A name has no id just where no id has the name. -/
theorem id?_eq_none_iff (h : Sorted table.entries) :
    table.id? name = none ↔ ∀ id, table.name? id ≠ some name := by
  constructor
  · exact name?_ne_of_id?_eq_none
  · intro hnot
    cases hid : table.id? name with
    | none => rfl
    | some id => exact (hnot id (name?_of_id? h hid)).elim

/-- A name that has an id can be told to a device. -/
theorem refers_of_name? (hname : table.name? id = some name) : table.Refers name := by
  cases hpredefined : table.isPredefined id with
  | true => exact ⟨.predefined, id, hpredefined, hname⟩
  | false => exact ⟨.normal, id, hpredefined, hname⟩

/-- What a device is told of a name denotes the name. -/
theorem denotes_of_reference? (h : Sorted table.entries)
    (hrefers : table.reference? name = some (type, id)) : table.Denotes type id name := by
  unfold reference? at hrefers
  split at hrefers
  next known hid =>
    obtain ⟨rfl, rfl⟩ := Prod.mk.inj (Option.some.inj hrefers)
    have hname := name?_of_id? h hid
    cases hpredefined : table.isPredefined known with
    | true => exact ⟨hpredefined, hname⟩
    | false => exact ⟨hpredefined, hname⟩
  next =>
    obtain ⟨short, hshort, heq⟩ := Option.map_eq_some_iff.mp hrefers
    cases heq
    exact shortId?_eq_some.mp hshort

/-- A name without a reference is denoted by no id. -/
theorem not_refers_of_reference? (hnone : table.reference? name = none) : ¬ table.Refers name := by
  unfold reference? at hnone
  split at hnone
  next => cases hnone
  next hid =>
    rintro ⟨type, id, hdenotes⟩
    cases type with
    | normal => exact name?_ne_of_id?_eq_none hid id hdenotes.2
    | predefined => exact name?_ne_of_id?_eq_none hid id hdenotes.2
    | short =>
      have hshort := shortId?_eq_some.mpr hdenotes
      rw [hshort] at hnone
      cases hnone

/-! ### Ids that a device is given for a name -/

variable {config : Config}

/-- The id that a name gets: one that it has, a new one, or 0 if there is none left. -/
theorem register_cases (h : table.Proper config) (name : String) :
    table.next > 65535 ∧ (table.register name).1 = none ∨
      ∃ id, (table.register name).1 = some id ∧ (table.register name).2.name? id = some name ∧
        (config.predefinedName? id = some name ∨ config.predefinedTopicIdSize < id) := by
  cases hid : table.id? name with
  | some id =>
    have hname := name?_of_id? h.sorted hid
    rw [register_of_some hid]
    refine .inr ⟨id, rfl, hname, ?_⟩
    cases hpredefined : table.isPredefined id with
    | true => exact .inl ((h.predefined id hpredefined).symm.trans hname)
    | false =>
      refine .inr (UInt16.not_le.mp fun hrange => ?_)
      rw [h.isPredefined_iff.mpr ⟨(h.given id name hname).1, hrange⟩] at hpredefined
      cases hpredefined
  | none =>
    by_cases hnext : table.next ≤ 65535
    · obtain ⟨hfresh, -⟩ := h.lt_next hnext
      rw [register_of_room hid hnext]
      refine .inr ⟨_, rfl, ?_, .inr hfresh⟩
      rw [name?_assign (ne_zero_of_lt hfresh) (h.allocate.isPredefined_of_lt hfresh), if_pos rfl]
    · rw [register_of_full hid (Nat.not_le.mp hnext)]
      exact .inl ⟨Nat.not_le.mp hnext, rfl⟩

/-- A device may publish under the id that it was given, unless it is predefined. -/
theorem resolve?_register (h : table.Proper config) (name : String)
    (hid : id = (table.register name).1.getD 0) :
    (table.register name).2.resolve? .normal id =
      if config.predefinedTopicIdSize < id then some name else none := by
  have hproper := h.register name
  split
  next hfresh =>
    rw [resolve?, hproper.isPredefined_of_lt hfresh]
    rcases register_cases h name with ⟨-, hnone⟩ | ⟨known, hsome, hname, -⟩
    · rw [hnone] at hid
      exact (ne_zero_of_lt hfresh hid).elim
    · rw [hsome] at hid
      exact hid ▸ hname
  next hrange =>
    by_cases hzero : id = 0
    · have hnone : (table.register name).2.name? id = none :=
        Option.eq_none_iff_forall_ne_some.mpr fun other hname =>
          (hproper.given id other hname).1 hzero
      rw [resolve?, hnone]
      exact ite_self _
    · rw [resolve?, hproper.isPredefined_iff.mpr ⟨hzero, UInt16.not_lt.mp hrange⟩]
      rfl

end Table

end SensorGateway.Topic
