import SensorGateway.Sensor.Message
import SensorGateway.Topic.Name
import SensorGateway.Topic.Table

/-!
From what a device says about a topic to the name by which the broker knows it.
The three kinds of topic id are three separate spaces: a normal id never means a
predefined topic and a predefined id never one that was registered.
-/

namespace SensorGateway.Topic

namespace Table

/-- The name that an id of this type stands for in a publication. -/
def resolve? (table : Table) (type : Sensor.TopicIdType) (id : UInt16) : Option String :=
  match type with
  | .normal => if table.isPredefined id then none else table.name? id
  | .predefined => if table.isPredefined id then table.name? id else none
  | .short => some (shortName id)

/-- The name that the topic of a subscription stands for. -/
def resolveRef? (table : Table) (topic : Sensor.TopicRef) : Option String :=
  match topic with
  | .named name => some name
  | .predefined id => table.resolve? .predefined id
  | .short first second => some (Text.ofPairLossy first second)

end Table

end SensorGateway.Topic
