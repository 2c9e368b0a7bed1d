import SensorGateway.Intake

/-!
The reader of a device link is a filter that keeps the order. `Reader.step` is one turn of
its loop, which looks at nothing but what has just come in, and `Accepts` says without any
of the reader's tests which datagrams are let through. A reception that is not accepted may
be anything: only the close of the link ends the reading, and every other datagram is
treated as if the bad one had never come.
-/

namespace SensorGateway.Intake

variable {minLength maxLength : Nat} {link : LinkName} {reception : Reception}

/-! ### One reception -/

def received? (minLength maxLength : Nat) (link : LinkName) : Reception → Option Envelope
  | .datagram sender bytes => envelope? minLength maxLength link sender bytes
  | .idle | .failed | .closed => none

/-- A datagram that holds a frame of an allowed length which can be read, and the envelope
that it is worth. -/
inductive Accepts (minLength maxLength : Nat) (link : LinkName) : Reception → Envelope → Prop where
  | datagram {sender : Endpoint} {bytes frame : Bytes} {address : Address}
      {message : Sensor.Message} (hunwrap : Datagram.unwrap bytes sender = .ok (address, frame))
      (hmin : minLength ≤ frame.length) (hmax : frame.length ≤ maxLength)
      (hdecode : Sensor.Message.decode frame = .ok message) :
      Accepts minLength maxLength link (.datagram sender bytes)
        ⟨some address, .sensor message link⟩

/-- A datagram is worth an envelope just where it is accepted. -/
theorem envelope?_eq_some {sender : Endpoint} {bytes : Bytes} {envelope : Envelope} :
    envelope? minLength maxLength link sender bytes = some envelope ↔
      Accepts minLength maxLength link (.datagram sender bytes) envelope := by
  constructor
  · intro h
    unfold envelope? at h
    split at h
    · contradiction
    next address frame hunwrap =>
      split at h
      · contradiction
      next hlength =>
        split at h
        · contradiction
        next message hdecode =>
          obtain ⟨hmin, hmax⟩ := not_or.mp hlength
          cases h
          exact .datagram hunwrap (Nat.not_lt.mp hmin) (Nat.not_lt.mp hmax) hdecode
  · intro h
    cases h with
    | @datagram _ _ frame _ _ hunwrap hmin hmax hdecode =>
      have hlength : ¬ (frame.length < minLength ∨ frame.length > maxLength) :=
        not_or.mpr ⟨Nat.not_lt.mpr hmin, Nat.not_lt.mpr hmax⟩
      simp only [envelope?, hunwrap, if_neg hlength, hdecode]

theorem received?_eq_some {envelope : Envelope} :
    received? minLength maxLength link reception = some envelope ↔
      Accepts minLength maxLength link reception envelope := by
  cases reception with
  | datagram sender bytes => exact envelope?_eq_some
  | idle | failed | closed => exact ⟨nofun, nofun⟩

/-! ### A script of receptions -/

/-- What comes in is put on the queue in its order, until the link is closed. -/
theorem envelopes_cons (hopen : reception ≠ .closed) (script : List Reception) :
    envelopes minLength maxLength link (reception :: script) =
      (received? minLength maxLength link reception).toList ++
        envelopes minLength maxLength link script := by
  cases reception with
  | closed => exact absurd rfl hopen
  | datagram sender bytes => rfl
  | idle | failed => rfl

/-- What comes in is what is accepted before the close. -/
theorem envelopes_eq_filterMap (script : List Reception) :
    envelopes minLength maxLength link script =
      (script.takeWhile (· ≠ .closed)).filterMap (received? minLength maxLength link) := by
  induction script with
  | nil => rfl
  | cons reception script ih =>
    by_cases hclosed : reception = .closed
    · subst hclosed
      rfl
    · rw [envelopes_cons hclosed, List.takeWhile_cons_of_pos (by simpa using hclosed), ih,
        List.filterMap_cons]
      cases received? minLength maxLength link reception <;> rfl

/-- The link being open, each part of a script is worth what it is worth alone. -/
theorem envelopes_append {before : List Reception} (hopen : .closed ∉ before)
    (after : List Reception) :
    envelopes minLength maxLength link (before ++ after) =
      envelopes minLength maxLength link before ++ envelopes minLength maxLength link after := by
  induction before with
  | nil => rfl
  | cons reception before ih =>
    have hhead : reception ≠ .closed := fun hclosed => hopen (hclosed ▸ List.mem_cons_self)
    have htail : .closed ∉ before := fun hmem => hopen (List.mem_cons_of_mem _ hmem)
    rw [List.cons_append, envelopes_cons hhead, envelopes_cons hhead, ih htail,
      List.append_assoc]

/-- Messages wait at the end of the queue, in the order in which they come in. -/
theorem toList_foldl_put (queue : Queue) (script : List Reception) :
    ((envelopes minLength maxLength link script).foldl Queue.put queue).toList =
      queue.toList ++ envelopes minLength maxLength link script := by
  have hmessages : ∀ envelope ∈ envelopes minLength maxLength link script,
      envelope.isSignal = false := by
    intro envelope hmem
    rw [envelopes_eq_filterMap, List.mem_filterMap] at hmem
    obtain ⟨reception, -, hreceived⟩ := hmem
    cases received?_eq_some.mp hreceived
    rfl
  generalize envelopes minLength maxLength link script = put at hmessages
  induction put generalizing queue with
  | nil => simp
  | cons envelope put ih =>
    obtain ⟨hmessage, hrest⟩ := List.forall_mem_cons.mp hmessages
    rw [List.foldl_cons, ih _ hrest, Queue.toList_put, hmessage]
    simp

/-! ### The loop of the reader -/

structure Reader where
  /-- Whether it waits for another datagram. -/
  reads : Bool := true
  /-- What it has put on the queue, in order. -/
  put : List Envelope := []

namespace Reader

/-- One turn of the loop. A reader that has stopped does not see what would come. -/
def step (minLength maxLength : Nat) (link : LinkName) (reader : Reader)
    (reception : Reception) : Reader :=
  if reader.reads then
    { reads := reception ≠ .closed
      put := reader.put ++ (received? minLength maxLength link reception).toList }
  else reader

def run (minLength maxLength : Nat) (link : LinkName) (script : List Reception) : Reader :=
  script.foldl (step minLength maxLength link) {}

/-- A reader that has stopped stays as it is. -/
theorem foldl_step_of_stopped (script : List Reception) (put : List Envelope) :
    script.foldl (step minLength maxLength link) ⟨false, put⟩ = ⟨false, put⟩ := by
  induction script with
  | nil => rfl
  | cons reception script ih => exact ih

/-- A reader at work puts what the rest of the script is worth behind what it has put, and
stays at work as long as the link is open. -/
theorem foldl_step_of_reads (script : List Reception) (put : List Envelope) :
    script.foldl (step minLength maxLength link) ⟨true, put⟩ =
      ⟨decide (.closed ∉ script), put ++ envelopes minLength maxLength link script⟩ := by
  induction script generalizing put with
  | nil => simp [envelopes]
  | cons reception script ih =>
    rw [List.foldl_cons]
    by_cases hclosed : reception = .closed
    · subst hclosed
      have hstep : step minLength maxLength link ⟨true, put⟩ .closed = ⟨false, put⟩ := by
        simp [step, received?]
      rw [hstep, foldl_step_of_stopped]
      simp [envelopes]
    · have hstep : step minLength maxLength link ⟨true, put⟩ reception =
          ⟨true, put ++ (received? minLength maxLength link reception).toList⟩ := by
        simp [step, hclosed]
      rw [hstep, ih, envelopes_cons hclosed, List.append_assoc]
      simp [Ne.symm hclosed]

end Reader

/-- Whatever comes in, the reader stops exactly when the link is closed. What it has put
then is, in order, one envelope for each datagram before the close that is accepted, which
is how it goes on the queue. A reception that does not close the link adds its own envelope,
if it is accepted, and leaves what the others are worth as it is. -/
theorem reader_filters (minLength maxLength : Nat) (link : LinkName) (script : List Reception) :
    let reader := Reader.run minLength maxLength link script
    (reader.reads = false ↔ .closed ∈ script) ∧
      reader.put = envelopes minLength maxLength link script ∧
      reader.put =
        (script.takeWhile (· ≠ .closed)).filterMap (received? minLength maxLength link) ∧
      (∀ reception envelope, received? minLength maxLength link reception = some envelope ↔
        Accepts minLength maxLength link reception envelope) ∧
      (∀ queue : Queue,
        (reader.put.foldl Queue.put queue).toList = queue.toList ++ reader.put) ∧
      ∀ before reception after, script = before ++ reception :: after →
        .closed ∉ before → reception ≠ .closed →
          reader.put = envelopes minLength maxLength link before ++
            (received? minLength maxLength link reception).toList ++
              envelopes minLength maxLength link after := by
  intro reader
  have hreader : reader =
      ⟨decide (.closed ∉ script), envelopes minLength maxLength link script⟩ :=
    Reader.foldl_step_of_reads script []
  have hput : reader.put = envelopes minLength maxLength link script :=
    congrArg Reader.put hreader
  refine ⟨?_, hput, ?_, fun _ _ => received?_eq_some, ?_, ?_⟩
  · rw [hreader]
    simp
  · rw [hput, envelopes_eq_filterMap]
  · intro queue
    rw [hput, toList_foldl_put]
  · rintro before reception after rfl hbefore hopen
    rw [hput, envelopes_append hbefore, envelopes_cons hopen, List.append_assoc]

/-- An empty datagram, a failure and a frame that is too short do not keep the reader from
the ping behind them. What comes after the close is not read. -/
example :
    let sender : Endpoint := ⟨.v4 10 0 0 1, 5000, 0⟩
    (Reader.run 2 255 "udp"
      [.datagram sender [], .failed, .datagram sender [2], .idle, .datagram sender [2, 0x16],
        .closed, .datagram sender [2, 0x17]]).put =
      [⟨some (.plain sender), .sensor (.pingRequest none) "udp"⟩] := by
  decide +kernel

end SensorGateway.Intake
