import ClusterPool.Proofs.Fleet

/-! What becomes of a producer through any sequence of calls. What it holds at the end is told by
the replies alone: it works from its first successful start until its first stop, and it has kept
exactly what it was given in calls that succeeded. -/
namespace ClusterPool

namespace Producer

/-- A call on a producer, with the reply to it. -/
structure Exchange where
  call : Call
  reply : Reply

/-- Makes calls one after the other. The exchanges come with what has become of the producer. -/
def converse (producer : Producer) : List Call → List Exchange × Producer
  | [] => ([], producer)
  | call :: rest =>
    let (reply, after) := producer.answer call
    let (later, last) := converse after rest
    (⟨call, reply⟩ :: later, last)

namespace Exchange

/-- The call was done without a fault. -/
def Succeeds (exchange : Exchange) : Prop := exchange.reply = .done (.ok ())

/-- Topics are to be published, or a batch is to be sent. -/
def AsksWork (exchange : Exchange) : Prop :=
  (∃ topics, exchange.call = .publish topics) ∨ ∃ batch, exchange.call = .send batch

/-- The batch of a send that succeeded. -/
def batch? (exchange : Exchange) : Option Batch :=
  match exchange with
  | ⟨.send batch, .done (.ok _)⟩ => some batch
  | _ => none

end Exchange

/-- The batches of the sends that succeeded, oldest first. -/
def accepted (told : List Exchange) : List Batch := told.filterMap Exchange.batch?

/-- One of the starts succeeded. -/
def HasStarted (told : List Exchange) : Prop :=
  ∃ exchange ∈ told, exchange.call = .start ∧ exchange.Succeeds

/-- There was a stop, whatever its reply. -/
def HasStopped (told : List Exchange) : Prop := ∃ exchange ∈ told, exchange.call = .stop

/-- A topic was in a set that was published. -/
def HasPublished (told : List Exchange) (topic : String) : Prop :=
  ∃ exchange ∈ told, exchange.Succeeds ∧
    ∃ topics, exchange.call = .publish topics ∧ topics.contains topic = true

/-- What a producer is, told by the exchanges with it. -/
structure Follows (told : List Exchange) (producer : Producer) : Prop where
  sent : producer.sent = accepted told
  topics : ∀ topic, producer.topics.contains topic = true ↔ HasPublished told topic
  settled : producer.phase ≠ .stopping
  started : producer.phase = .started ↔ HasStarted told ∧ ¬HasStopped told
  stopped : producer.phase = .stopped ↔ HasStopped told
  willing : HasStarted told → producer.refusesStart = false

/-! Single calls: when they succeed, and what they change. -/

/-- The producer can do what is asked for without a fault. -/
def grants (producer : Producer) : Call → Bool
  | .start => !producer.refusesStart && (producer.phase = .created || producer.phase = .started)
  | .stop => !producer.failsStop
  | .publish _ => producer.phase = .started
  | .send _ => producer.phase = .started && !producer.failsSends
  | _ => false

theorem answer_succeeds_iff (producer : Producer) (call : Call) :
    (producer.answer call).1 = .done (.ok ()) ↔ producer.grants call = true := by
  cases call with
  | start =>
    cases refuses : producer.refusesStart <;> cases at_ : producer.phase <;>
      simp [answer, grants, finishStart, beginStart, Phase.start, refuses, at_]
  | stop => cases fails : producer.failsStop <;> simp [answer, grants, stop, fails]
  | publish topics =>
    by_cases started : producer.phase = .started <;>
      simp [answer, grants, publish, Phase.ensureStarted, started]
  | send batch =>
    by_cases started : producer.phase = .started <;> cases fails : producer.failsSends <;>
      simp [answer, grants, send, Phase.ensureStarted, started, fails]
  | failSends | failStop | sent | cluster => simp [answer, grants]

theorem grants_start_iff (producer : Producer) : producer.grants .start = true ↔
    producer.refusesStart = false ∧ (producer.phase = .created ∨ producer.phase = .started) := by
  simp [grants]

theorem not_stopped_of_grants {producer : Producer} (grant : producer.grants .start = true) :
    producer.phase ≠ .stopped := by
  obtain ⟨_, at_ | at_⟩ := (grants_start_iff producer).mp grant <;> simp [at_]

theorem started_of_work {producer : Producer} {exchange : Exchange} (work : exchange.AsksWork)
    (grant : producer.grants exchange.call = true) : producer.phase = .started := by
  obtain ⟨topics, asked⟩ | ⟨batch, asked⟩ := work
  · simpa [asked, grants] using grant
  · rw [asked] at grant
    simp [grants] at grant
    exact grant.1

/-- Only another stop succeeds after the end. -/
theorem stop_of_stopped {producer : Producer} {call : Call} (stopped : producer.phase = .stopped)
    (grant : producer.grants call = true) : call = .stop := by
  cases call with
  | stop => rfl
  | start => exact absurd stopped (not_stopped_of_grants grant)
  | publish | send | failSends | failStop | sent | cluster => simp [grants, stopped] at grant

/-- A start counts itself, and moves the producer on if it succeeds. -/
theorem answer_start (producer : Producer) : (producer.answer .start).2 =
    { producer with
      phase := if producer.grants .start then .started else producer.phase
      starts := producer.starts + 1 } := by
  cases refuses : producer.refusesStart <;> cases at_ : producer.phase <;>
    simp [answer, grants, finishStart, beginStart, Phase.start, refuses, at_]

/-- A call keeps the batch of a send that succeeds. -/
theorem answer_sent (producer : Producer) (call : Call) : (producer.answer call).2.sent =
    producer.sent ++ (Exchange.batch? ⟨call, (producer.answer call).1⟩).toList := by
  cases call with
  | start => simp [answer_start, Exchange.batch?]
  | stop => cases fails : producer.failsStop <;> simp [answer, stop, fails, Exchange.batch?]
  | publish topics =>
    by_cases started : producer.phase = .started <;>
      simp [answer, publish, Phase.ensureStarted, started, Exchange.batch?]
  | send batch =>
    by_cases started : producer.phase = .started <;> cases fails : producer.failsSends <;>
      simp [answer, send, Phase.ensureStarted, started, fails, Exchange.batch?]
  | failSends | failStop | sent | cluster => simp [answer, Exchange.batch?]

/-- A call adds the topics of a publication that succeeds. -/
theorem answer_topics (producer : Producer) (call : Call) (topic : String) :
    (producer.answer call).2.topics.contains topic = true ↔
      producer.topics.contains topic = true ∨ producer.grants call = true ∧
        ∃ topics, call = .publish topics ∧ topics.contains topic = true := by
  cases call with
  | start => simp [answer_start]
  | stop => simp [answer, stop_topics]
  | publish topics =>
    by_cases started : producer.phase = .started <;>
      simp [answer, publish_adds, grants, started, NameSet.contains_union]
  | send batch =>
    have same := congrArg Prod.snd (producer.send_standing batch)
    simp only [standing] at same
    simp [answer, same]
  | failSends | failStop | sent | cluster => simp [answer]

/-- Starts that succeed and stops lead to another phase, and nothing else does. -/
theorem answer_phase {producer : Producer} (settled : producer.phase ≠ .stopping) (call : Call) :
    (producer.answer call).2.phase =
      match call with
      | .start => if producer.grants .start then .started else producer.phase
      | .stop => .stopped
      | _ => producer.phase := by
  cases call with
  | start => simp [answer_start]
  | stop => simp [answer, stop_stops settled]
  | publish topics => simp [answer, publish_adds, apply_ite Producer.phase]
  | send batch => simp [answer, send_keeps, apply_ite Producer.phase, take]
  | failSends | failStop | sent | cluster => simp [answer]

theorem answer_started_iff {producer : Producer} (settled : producer.phase ≠ .stopping)
    (call : Call) : (producer.answer call).2.phase = .started ↔
      (producer.phase = .started ∨ call = .start ∧ producer.grants call = true) ∧
        producer.phase ≠ .stopped ∧ call ≠ .stop := by
  rw [answer_phase settled]
  cases call with
  | start => cases at_ : producer.phase <;> simp_all [grants]
  | stop => simp
  | publish | send | failSends | failStop | sent | cluster =>
    cases at_ : producer.phase <;> simp

theorem answer_stopped_iff {producer : Producer} (settled : producer.phase ≠ .stopping)
    (call : Call) : (producer.answer call).2.phase = .stopped ↔
      producer.phase = .stopped ∨ call = .stop := by
  rw [answer_phase settled]
  cases call with
  | start =>
    by_cases grant : producer.grants .start = true
    · simp [grant, not_stopped_of_grants grant]
    · simp [grant]
  | stop => simp
  | publish | send | failSends | failStop | sent | cluster => simp

/-- Whether a producer refuses to start never changes. -/
theorem answer_refuses (producer : Producer) (call : Call) :
    (producer.answer call).2.refusesStart = producer.refusesStart := by
  cases call with
  | start => simp [answer_start]
  | stop => cases fails : producer.failsStop <;> simp [answer, stop, fails]
  | publish topics => simp [answer, publish_adds, apply_ite Producer.refusesStart]
  | send batch => simp [answer, send_keeps, apply_ite Producer.refusesStart, take]
  | failSends | failStop | sent | cluster => simp [answer]

section
variable {told : List Exchange} {producer : Producer} {exchange : Exchange}

theorem hasStarted_snoc : HasStarted (told ++ [exchange]) ↔
    HasStarted told ∨ exchange.call = .start ∧ exchange.Succeeds := by
  simp [HasStarted, or_and_right, exists_or]

theorem hasStopped_snoc : HasStopped (told ++ [exchange]) ↔
    HasStopped told ∨ exchange.call = .stop := by
  simp [HasStopped, or_and_right, exists_or]

theorem hasPublished_snoc {topic : String} : HasPublished (told ++ [exchange]) topic ↔
    HasPublished told topic ∨ exchange.Succeeds ∧
      ∃ topics, exchange.call = .publish topics ∧ topics.contains topic = true := by
  simp [HasPublished, or_and_right, exists_or]

theorem accepted_snoc :
    accepted (told ++ [exchange]) = accepted told ++ exchange.batch?.toList := by
  cases kept : exchange.batch? <;> simp [accepted, kept]

theorem follows_fresh (pool : String) (cluster : Cluster) (refusesStart : Bool)
    (startDelay : Nat) : Follows [] { pool, cluster, refusesStart, startDelay } := by
  constructor <;> simp [accepted, HasStarted, HasStopped, HasPublished]

/-- Whatever the call is, its reply says enough to tell what the producer is after it. -/
theorem Follows.answer (follows : Follows told producer) (call : Call) :
    Follows (told ++ [⟨call, (producer.answer call).1⟩]) (producer.answer call).2 where
  sent := by rw [answer_sent, accepted_snoc, follows.sent]
  topics topic := by
    rw [answer_topics, hasPublished_snoc, follows.topics, Exchange.Succeeds, answer_succeeds_iff]
  settled := by
    rw [answer_phase follows.settled]
    split
    · split
      · exact nofun
      · exact follows.settled
    · exact nofun
    · exact follows.settled
  started := by
    rw [answer_started_iff follows.settled, hasStarted_snoc, hasStopped_snoc, Exchange.Succeeds,
      answer_succeeds_iff, follows.started, Ne, follows.stopped]
    grind
  stopped := by
    rw [answer_stopped_iff follows.settled, hasStopped_snoc, follows.stopped]
  willing := by
    rw [answer_refuses, hasStarted_snoc, Exchange.Succeeds, answer_succeeds_iff]
    rintro (before | ⟨rfl, grant⟩)
    · exact follows.willing before
    · exact ((grants_start_iff producer).mp grant).1

/-- Step by step, the replies tell what the producer is at the end. -/
theorem Follows.converse (follows : Follows told producer) (calls : List Call) :
    Follows (told ++ (producer.converse calls).1) (producer.converse calls).2 := by
  induction calls generalizing told producer with
  | nil => rwa [Producer.converse, List.append_nil]
  | cons call rest ih =>
    have next := ih (follows.answer call)
    rwa [List.append_assoc] at next

/-- At any exchange, the producer is what has become of it through the exchanges before. -/
theorem converse_split {calls : List Call} {early late : List Exchange}
    (told : (producer.converse calls).1 = early ++ exchange :: late) :
    ∃ before, (producer.converse before).1 = early ∧
      ((producer.converse before).2.answer exchange.call).1 = exchange.reply := by
  induction calls generalizing producer early with
  | nil => simp [Producer.converse] at told
  | cons call rest ih =>
    cases early with
    | nil =>
      obtain ⟨rfl, _⟩ := List.cons.inj told
      exact ⟨[], rfl, rfl⟩
    | cons first others =>
      obtain ⟨rfl, later⟩ := List.cons.inj told
      obtain ⟨before, rfl, replied⟩ := ih later
      exact ⟨call :: before, rfl, replied⟩

end

/-- The whole career of a producer, told by the exchanges with it alone. It has kept the batches
whose sends succeeded, in order, and counted them, and it publishes the topics of the publications
that succeeded. Both succeed only after a start that succeeded and before the first stop. After a
stop, also one that failed, nothing succeeds but further stops, and the producer has stopped for
good. Until then another start after one that succeeded succeeds too, and is only counted. -/
theorem told_by_exchanges (pool : String) (cluster : Cluster) (refusesStart : Bool) (startDelay : Nat)
    {calls : List Call} {told : List Exchange} {last : Producer}
    (made : converse { pool, cluster, refusesStart, startDelay } calls = (told, last)) :
    last.answer .sent = (.batches (accepted told), last) ∧
    last.sentCount = (accepted told).length ∧
    (∀ topic, last.topics.contains topic = true ↔ HasPublished told topic) ∧
    (∀ early exchange late, told = early ++ exchange :: late → exchange.Succeeds →
      (exchange.AsksWork → HasStarted early ∧ ¬HasStopped early) ∧
      (HasStopped early → exchange.call = .stop)) ∧
    (HasStopped told → ∀ more, (last.converse more).2.phase = .stopped) ∧
    (HasStarted told → ¬HasStopped told → last.answer .start =
      (.done (.ok ()), { last with starts := last.starts + 1 })) := by
  have fresh := follows_fresh pool cluster refusesStart startDelay
  obtain ⟨rfl, rfl⟩ := Prod.ext_iff.mp made
  have follows := fresh.converse calls
  rw [List.nil_append] at follows
  refine ⟨?_, (counted _).trans (congrArg _ follows.sent), follows.topics, ?_, ?_, ?_⟩
  · rw [answer, follows.sent]
  · intro early exchange late told succeeds
    obtain ⟨before, rfl, replied⟩ := converse_split told
    have follows := fresh.converse before
    rw [List.nil_append] at follows
    rw [Exchange.Succeeds, ← replied, answer_succeeds_iff] at succeeds
    constructor
    · intro work
      exact follows.started.mp (started_of_work work succeeds)
    · intro stopped
      exact stop_of_stopped (follows.stopped.mpr stopped) succeeds
  · intro stopped more
    obtain ⟨exchange, member, stop⟩ := stopped
    refine (follows.converse more).stopped.mpr ⟨exchange, ?_, stop⟩
    exact List.mem_append_left _ member
  · intro started running
    have phase := follows.started.mpr ⟨started, running⟩
    have grant := (grants_start_iff _).mpr ⟨follows.willing started, .inr phase⟩
    refine Prod.ext ((answer_succeeds_iff _ _).mpr grant) ?_
    rw [answer_start, if_pos grant, ← phase]

/-- What is said to a producer that starts in vain after a stop that failed. -/
def retirement : List Exchange :=
  [⟨.send {}, .done (.error (.notStarted "A"))⟩,
    ⟨.start, .done (.ok ())⟩,
    ⟨.send {}, .done (.ok ())⟩,
    ⟨.failStop true, .nothing⟩,
    ⟨.stop, .done (.error (.stopFailed "A" "close timed out"))⟩,
    ⟨.start, .done (.error (.startFailed "A" "cannot start from Stopped"))⟩,
    ⟨.send {}, .done (.error (.notStarted "A"))⟩]

/-- What has become of it in the end. -/
def retired : Producer where
  pool := "p"
  cluster := { name := "A" }
  phase := .stopped
  failsStop := true
  starts := 2
  stops := 1
  sent := [{}]
  sentCount := 1
  counted := rfl

/-- It has kept the one batch that it was sent while it worked, and it never works again. -/
theorem told_by_exchanges_of_retirement :
    converse { pool := "p", cluster := { name := "A" } } (retirement.map Exchange.call) =
      (retirement, retired) ∧
    retired.answer .sent = (.batches (accepted retirement), retired) ∧
    accepted retirement = [{}] ∧
    ∀ more, (retired.converse more).2.phase = .stopped := by
  have told : converse { pool := "p", cluster := { name := "A" } } (retirement.map Exchange.call) =
      (retirement, retired) := by rfl
  obtain ⟨sent, _, _, _, ends, _⟩ := told_by_exchanges "p" { name := "A" } false 0 told
  exact ⟨told, sent, rfl, ends ⟨_, .tail _ (.tail _ (.tail _ (.tail _ (.head _)))), rfl⟩⟩

end Producer
end ClusterPool
