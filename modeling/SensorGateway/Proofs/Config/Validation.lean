import Mathlib.Data.List.Nodup
import SensorGateway.Config.Validation
import SensorGateway.Proofs.Except
import SensorGateway.Proofs.Topic.Reference

/-!
Which configurations a gateway works with. The checks are made one after the other and the first
problem ends them, but what they come to is a list of conditions in which the order makes no
difference: `validate_eq_ok` says that they are all that is asked. Under these conditions the
table with which every session begins holds the configured topics, all of them and as they are.
-/

namespace SensorGateway.Config

theorem checkPeriods_eq_ok {settings : List (String × Nat)} :
    checkPeriods settings = .ok () ↔ ∀ setting ∈ settings, 0 < setting.2 := by
  induction settings with
  | nil => simp [checkPeriods]
  | cons setting settings ih =>
    rw [List.forall_mem_cons, ← ih, checkPeriods]
    split
    next hzero => simp [hzero]
    next hvalue => exact (and_iff_right (Nat.pos_of_ne_zero hvalue)).symm

def IsProperTopic (size : UInt16) (topic : PredefinedTopic) : Prop :=
  (topic.id ≠ 0 ∧ topic.id ≤ size) ∧ topic.name ≠ ""

/-- The ids seen before must not come again, and none of the others twice. -/
theorem checkTopics_eq_ok {size : UInt16} {seen : List UInt16} {topics : List PredefinedTopic} :
    checkTopics size seen topics = .ok () ↔
      (∀ topic ∈ topics, IsProperTopic size topic) ∧ (∀ topic ∈ topics, topic.id ∉ seen) ∧
        (topics.map (·.id)).Nodup := by
  induction topics generalizing seen with
  | nil => simp [checkTopics]
  | cons topic topics ih =>
    have hnext : checkTopics size seen (topic :: topics) = .ok () ↔
        IsProperTopic size topic ∧ topic.id ∉ seen ∧
          checkTopics size (topic.id :: seen) topics = .ok () := by
      simp only [checkTopics, IsProperTopic, Except.ite_error_eq_ok, not_or, UInt16.not_lt,
        String.isEmpty_iff]
      tauto
    have hseen : (∀ other ∈ topics, other.id ∉ topic.id :: seen) ↔
        topic.id ∉ topics.map (·.id) ∧ ∀ other ∈ topics, other.id ∉ seen := by
      simp only [List.mem_cons, not_or, List.mem_map, not_exists, not_and, imp_and, forall_and]
    rw [hnext, ih, hseen, List.forall_mem_cons, List.forall_mem_cons, List.map_cons,
      List.nodup_cons]
    tauto

/-- What `validate` makes sure of. -/
structure Valid (config : Config) : Prop where
  advertisePeriod : 0 < config.advertisePeriod
  keepAlivePeriod : 0 < config.keepAlivePeriod
  checkingPeriod : 0 < config.checkingPeriod
  waitingTime : 0 < config.waitingTime
  forwarderTimeout : 0 < config.forwarderTimeout
  frames : 2 ≤ config.minFrameLength ∧ config.maxFrameLength ≤ 255 ∧
    config.minFrameLength ≤ config.maxFrameLength
  topicIds : ∀ topic ∈ config.predefinedTopics,
    topic.id ≠ 0 ∧ topic.id ≤ config.predefinedTopicIdSize
  topicNames : ∀ topic ∈ config.predefinedTopics, topic.name ≠ ""
  topicsOnce : (config.predefinedTopics.map (·.id)).Nodup
  willQos : config.connect.willQos ≤ 2
  brokerHost : config.broker.host ≠ ""
  deviceLinks : config.deviceLinks ≠ []

variable {config : Config} {id : UInt16} {name : String}

/-- A configuration is accepted just where everything that is checked is as it should be. -/
theorem validate_eq_ok : config.validate = .ok () ↔ config.Valid := by
  have hlinks : (throw .noDeviceLinks : Except Problem Unit) = .error .noDeviceLinks := rfl
  unfold validate
  simp only [Except.throw_bind, hlinks, Except.seq_eq_ok, Except.ite_error_eq_ok,
    checkPeriods_eq_ok, checkTopics_eq_ok, List.forall_mem_cons, String.isEmpty_iff,
    List.isEmpty_iff, UInt8.not_lt]
  constructor
  · rintro ⟨⟨hadvertise, hkeepAlive, hchecking, hwaiting, hforwarder, -⟩, hframes,
      ⟨htopics, -, honce⟩, hqos, hhost, hlinks, -⟩
    exact {
      advertisePeriod := hadvertise
      keepAlivePeriod := hkeepAlive
      checkingPeriod := hchecking
      waitingTime := hwaiting
      forwarderTimeout := hforwarder
      frames := by omega
      topicIds := fun topic hin => (htopics topic hin).1
      topicNames := fun topic hin => (htopics topic hin).2
      topicsOnce := honce
      willQos := hqos
      brokerHost := hhost
      deviceLinks := hlinks }
  · intro h
    have hframes := h.frames
    exact ⟨⟨h.advertisePeriod, h.keepAlivePeriod, h.checkingPeriod, h.waitingTime,
      h.forwarderTimeout, nofun⟩, by omega,
      ⟨fun topic hin => ⟨h.topicIds topic hin, h.topicNames topic hin⟩, nofun, h.topicsOnce⟩,
      h.willQos, h.brokerHost, h.deviceLinks, rfl⟩

theorem valid_of_validate (h : config.validate = .ok ()) : config.Valid :=
  validate_eq_ok.mp h

/-- Where no id is told twice, an id has the name that it is told with. -/
theorem Valid.predefinedName?_eq_some (h : config.Valid) :
    config.predefinedName? id = some name ↔ ⟨id, name⟩ ∈ config.predefinedTopics := by
  unfold predefinedName?
  rw [Option.map_eq_some_iff]
  constructor
  · rintro ⟨⟨other, _⟩, hfound, rfl⟩
    have hid := List.find?_some hfound
    obtain rfl : other = id := eq_of_beq hid
    exact List.mem_reverse.mp (List.mem_of_find?_eq_some hfound)
  · intro hin
    have hsome : (config.predefinedTopics.reverse.find? (·.id == id)).isSome = true :=
      List.find?_isSome.mpr ⟨⟨id, name⟩, List.mem_reverse.mpr hin, beq_self_eq_true id⟩
    obtain ⟨topic, hfound⟩ := Option.isSome_iff_exists.mp hsome
    have hid := List.find?_some hfound
    have hsame : topic = ⟨id, name⟩ := List.inj_on_of_nodup_map h.topicsOnce
      (List.mem_reverse.mp (List.mem_of_find?_eq_some hfound)) hin (eq_of_beq hid)
    exact ⟨topic, hfound, hsame ▸ rfl⟩

/-- The table with which a session begins has the configured topics and no others. -/
theorem Valid.name?_topicTable (h : config.Valid) :
    config.topicTable.name? id = some name ↔ ⟨id, name⟩ ∈ config.predefinedTopics := by
  have hproper := Topic.Table.proper_topicTable config
  have hnext : config.topicTable.next = config.predefinedTopicIdSize.toNat + 1 :=
    Topic.Table.next_ofPredefined _ _
  rw [← h.predefinedName?_eq_some]
  constructor
  · intro hname
    obtain ⟨hzero, hgiven⟩ := hproper.given id name hname
    rw [hnext] at hgiven
    have hpredefined : config.topicTable.isPredefined id = true :=
      hproper.isPredefined_iff.mpr ⟨hzero, UInt16.le_iff_toNat_le.mpr (Nat.le_of_lt_succ hgiven)⟩
    rw [← hproper.predefined id hpredefined, hname]
  · intro hname
    have hpredefined : config.topicTable.isPredefined id = true :=
      hproper.isPredefined_iff.mpr (h.topicIds _ (h.predefinedName?_eq_some.mp hname))
    rw [hproper.predefined id hpredefined, hname]

/-- Predefined ids stand for the names of the configuration, and no others. -/
theorem Valid.resolve?_predefined (h : config.Valid) :
    config.topicTable.resolve? .predefined id = some name ↔
      ⟨id, name⟩ ∈ config.predefinedTopics := by
  have hproper := Topic.Table.proper_topicTable config
  unfold Topic.Table.resolve?
  rw [Option.ite_none_right_eq_some, h.name?_topicTable]
  exact and_iff_right_of_imp fun hin => hproper.isPredefined_iff.mpr (h.topicIds _ hin)

/-- No configured topic is left out, and none takes the place of another. -/
theorem Valid.entries_topicTable (h : config.Valid) :
    config.topicTable.entries.Perm config.predefinedEntries := by
  have hsorted := (Topic.Table.proper_topicTable config).sorted
  have honce : config.topicTable.entries.Nodup := hsorted.imp fun hlt heq => by
    rw [heq] at hlt
    exact UInt16.lt_irrefl _ hlt
  have hids : (config.predefinedEntries.map (·.1)).Nodup := by
    rw [predefinedEntries, List.map_map]
    exact h.topicsOnce
  rw [List.perm_ext_iff_of_nodup honce hids.of_map]
  rintro ⟨id, name⟩
  rw [Topic.Table.mem_entries_iff hsorted, h.name?_topicTable, predefinedEntries, List.mem_map]
  constructor
  · exact fun hin => ⟨_, hin, rfl⟩
  · rintro ⟨topic, hin, heq⟩
    cases heq
    exact hin

/-- The checks pass exactly for the conditions in `Valid`. They are all that the topic table
needs: it has the configured topics, each under its id, and gives out the ids above them. -/
theorem validate_suffices (config : Config) :
    (config.validate = .ok () ↔ config.Valid) ∧
      (config.validate = .ok () →
        (∀ id name, config.topicTable.name? id = some name ↔
          ⟨id, name⟩ ∈ config.predefinedTopics) ∧
        config.topicTable.size = config.predefinedTopics.length ∧
        config.topicTable.allocate.1.map (·.toNat) =
          if config.predefinedTopicIdSize.toNat + 1 ≤ 65535
          then some (config.predefinedTopicIdSize.toNat + 1) else none) := by
  refine ⟨validate_eq_ok, fun hvalidate => ?_⟩
  have hvalid := valid_of_validate hvalidate
  refine ⟨fun id name => hvalid.name?_topicTable, ?_, ?_⟩
  · exact hvalid.entries_topicTable.length_eq.trans (List.length_map _)
  · rw [Topic.Table.toNat_allocate, topicTable, Topic.Table.next_ofPredefined]

/-- Here all ids are predefined, so that none is left to be given out. -/
theorem validate_suffices_full :
    let config : Config :=
      { predefinedTopicIdSize := 65535
        predefinedTopics := [⟨65535, "last"⟩, ⟨1, "first"⟩] }
    config.validate = .ok () ∧ config.topicTable.name? 65535 = some "last" ∧
      config.topicTable.size = 2 ∧ config.topicTable.allocate.1 = none := by
  intro config
  have hvalidate : config.validate = .ok () := by decide
  obtain ⟨hname, hsize, hallocate⟩ := (validate_suffices config).2 hvalidate
  refine ⟨hvalidate, (hname 65535 "last").mpr (by decide), hsize, ?_⟩
  exact Option.map_eq_none_iff.mp (hallocate.trans (if_neg (by decide)))

end SensorGateway.Config
