import SensorGateway.Config.Validation
import SensorGateway.Toml.Document

/-!
Reading a configuration. A setting that is missing has its default, and what is
not a setting is ignored. A record may be written as a table, or as an array of
its fields in their order.
-/

namespace SensorGateway.Config

open Toml (Value Entries)

/-- Why a configuration cannot be used. -/
inductive LoadError where
  /-- The text could not be had. -/
  | io
  /-- The text is not TOML, or a setting has a value of a wrong kind. -/
  | toml
  | invalid (problem : Problem)
deriving DecidableEq

/-! ### Single settings -/

def readNat (max : Nat) : Value → Option Nat
  | .integer value => if 0 ≤ value ∧ value ≤ max then some value.toNat else none
  | _ => none

def readUInt8 (value : Value) : Option UInt8 := (readNat 255 value).map UInt8.ofNat

def readUInt16 (value : Value) : Option UInt16 := (readNat 65535 value).map UInt16.ofNat

/-- A number of seconds or bytes. -/
def readAmount (value : Value) : Option Nat := readNat (UInt64.size - 1) value

def readBool : Value → Option Bool
  | .boolean value => some value
  | _ => none

def readText : Value → Option String
  | .text text => some text
  | _ => none

def readList {α : Type} (read : Value → Option α) : Value → Option (List α)
  | .array items => items.mapM read
  | .tables latest earlier => (latest :: earlier).reverse.mapM read
  | _ => none

/-! ### Records -/

/-- The fields of a record. -/
inductive Fields where
  | named (entries : Entries)
  | inOrder (items : List Value)

namespace Fields

/-- The fields that a value has. A date has none that is known by its name. -/
def ofValue : Value → Option Fields
  | .table _ entries => some (.named entries)
  | .array items => some (.inOrder items)
  | .tables latest earlier => some (.inOrder (latest :: earlier).reverse)
  | .datetime => some (.named [])
  | _ => none

def find? (fields : Fields) (index : Nat) (name : String) : Option Value :=
  match fields with
  | named entries => entries.find? name
  | inOrder items => items[index]?

/-- A field that may be missing. -/
def get {α : Type} (fields : Fields) (index : Nat) (name : String) (read : Value → Option α)
    (default : α) : Option α :=
  match fields.find? index name with
  | none => some default
  | some value => read value

end Fields

def readPredefinedTopic (value : Value) : Option PredefinedTopic := do
  let fields ← Fields.ofValue value
  let id ← (fields.find? 0 "id").bind readUInt16
  let name ← (fields.find? 1 "name").bind readText
  return { id, name }

def readBroker (value : Value) : Option BrokerAddress := do
  let fields ← Fields.ofValue value
  let default : BrokerAddress := {}
  let host ← fields.get 0 "host" readText default.host
  let port ← fields.get 1 "port" readUInt16 default.port
  return { host, port }

def readConnect (value : Value) : Option ConnectSettings := do
  let fields ← Fields.ofValue value
  let default : ConnectSettings := {}
  let protocolName ← fields.get 0 "protocol_name" readText default.protocolName
  let protocolVersion ← fields.get 1 "protocol_version" readUInt8 default.protocolVersion
  let cleanSession ← fields.get 2 "clean_session" readBool default.cleanSession
  let willFlag ← fields.get 3 "will_flag" readBool default.willFlag
  let willQos ← fields.get 4 "will_qos" readUInt8 default.willQos
  let willRetain ← fields.get 5 "will_retain" readBool default.willRetain
  let willTopic ← fields.get 6 "will_topic" readText default.willTopic
  let willMessage ← fields.get 7 "will_message" readText default.willMessage
  return { protocolName, protocolVersion, cleanSession, willFlag, willQos, willRetain, willTopic
           willMessage }

/-- The kind of a device link comes first if its fields are in order, and then
no field too many is ignored. -/
def readDeviceLink (value : Value) : Option DeviceLinkSettings := do
  let fields ← Fields.ofValue value
  let kind ← (fields.find? 0 "kind").bind readText
  let port ← fields.get 1 "port" readUInt16 DeviceLinkSettings.defaultPort
  let surplus :=
    match fields with
    | .inOrder items => items.length > 2
    | .named _ => false
  if kind == "udp" && !surplus then return .udp port else none

/-- The configuration that the entries of a document describe. -/
def ofEntries (entries : Entries) : Option Config := do
  let fields := Fields.named entries
  let default : Config := {}
  let gatewayId ← fields.get 0 "gw_id" readUInt8 default.gatewayId
  let predefinedTopicIdSize ←
    fields.get 1 "predefined_topic_id_size" readUInt16 default.predefinedTopicIdSize
  let advertisePeriod ← fields.get 2 "adv_period_secs" readAmount default.advertisePeriod
  let keepAlivePeriod ← fields.get 3 "keep_alive_period_secs" readAmount default.keepAlivePeriod
  let checkingPeriod ← fields.get 4 "checking_period_secs" readAmount default.checkingPeriod
  let maxRetries ← fields.get 5 "max_retries" (readNat (UInt32.size - 1)) default.maxRetries
  let waitingTime ← fields.get 6 "waiting_time_secs" readAmount default.waitingTime
  let handlerTimeout ← fields.get 7 "handler_timeout_secs" readAmount default.handlerTimeout
  let forwarderTimeout ← fields.get 8 "forwarder_timeout_secs" readAmount default.forwarderTimeout
  let minFrameLength ← fields.get 9 "min_frame_length" readAmount default.minFrameLength
  let maxFrameLength ← fields.get 10 "max_frame_length" readAmount default.maxFrameLength
  let logLevel ← fields.get 11 "log_level" readText default.logLevel
  let predefinedTopics ←
    fields.get 12 "predefined_topics" (readList readPredefinedTopic) default.predefinedTopics
  let broker ← fields.get 13 "broker" readBroker default.broker
  let connect ← fields.get 14 "connect" readConnect default.connect
  let deviceLinks ← fields.get 15 "device_links" (readList readDeviceLink) default.deviceLinks
  return { gatewayId, predefinedTopicIdSize, advertisePeriod, keepAlivePeriod, checkingPeriod
           maxRetries, waitingTime, handlerTimeout, forwarderTimeout, minFrameLength
           maxFrameLength, logLevel, predefinedTopics, broker, connect, deviceLinks }

/-- Reads a configuration and checks whether a gateway can work with it. -/
def parse (text : String) : Except LoadError Config :=
  match (Toml.parse? text).bind ofEntries with
  | none => .error .toml
  | some config =>
      match config.validate with
      | .error problem => .error (.invalid problem)
      | .ok () => .ok config

end SensorGateway.Config
