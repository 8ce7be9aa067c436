import TabletopDice.Chance.Replay
import TabletopDice.CommandLine.Console
import TabletopDice.Proofs.Blocks
import TabletopDice.Proofs.Failure

/-!
# Runs that print all or nothing

A run of the command line does what a play with its cup does, and tells of it on the way. Lines are
printed once the play has come to its values, when nothing can fail any more. So a run that ends
with a fault has printed nothing, however late in the text the fault is found
(`Request.play_eq_ofOutcome`).
-/

namespace TabletopDice

/-- The transcript of a run that tells these records and comes to this outcome: one line for each of
its values, or its fault. -/
def Transcript.ofOutcome (records : List Record) : Except Fault (List String) → Transcript
  | .ok lines => { events := records.map .told ++ lines.map .printed, exitCode := 0 }
  | .error fault => { events := records.map .told ++ [.reported fault], exitCode := 1 }

namespace Watched

variable {σ α β : Type}

section Steps

variable (desk : Desk σ)

theorem get_eq : (get : Watched σ (Desk σ)) desk = (.ok desk, desk) := rfl

theorem modify_eq (change : Desk σ → Desk σ) :
    (modify change : Watched σ Unit) desk = (.ok (), change desk) := rfl

theorem liftM_eq (result : Except Fault α) : (liftM result : Watched σ α) desk = (result, desk) :=
  rfl

theorem emit_eq (event : Event) :
    emit event desk = (.ok (), { desk with events := desk.events.push event }) := rfl

/-- Events that are emitted come behind those that were seen before. -/
theorem emitAll_eq (events : List Event) :
    emitAll events desk = (.ok (), { desk with events := desk.events ++ events }) := by
  induction events generalizing desk with
  | nil => rfl
  | cons event events ih =>
    have split : emitAll (event :: events) = (emit event : Watched σ Unit) >>= fun _ =>
        emitAll events := rfl
    rw [split, Play.bind_eq, emit_eq]
    exact ih { desk with events := desk.events.push event }

end Steps

/-- The run does with its cup what the play does, and all that is seen of it are records for those
who look for faults. -/
def Follows (run : Watched σ α) (play : Play σ α) : Prop :=
  ∀ desk : Desk σ, ∃ records : List Record, (∀ record ∈ records, record.level ≤ .debug) ∧
    run desk = ((play desk.cup).1,
      { cup := (play desk.cup).2, events := desk.events ++ records.map Event.told })

/-- Runs that follow plays, one after the other, follow the plays one after the other. -/
theorem Follows.bind {run : Watched σ α} {play : Play σ α} {next : α → Watched σ β}
    {next' : α → Play σ β} (follows : run.Follows play)
    (onward : ∀ value, (next value).Follows (next' value)) :
    Follows (run >>= next) (play >>= next') := by
  intro desk
  obtain ⟨records, low, ran⟩ := follows desk
  rw [Play.bind_eq, Play.bind_eq, ran]
  rcases play desk.cup with ⟨fault | value, cup⟩
  · exact ⟨records, low, rfl⟩
  · obtain ⟨more, low', ran'⟩ :=
      onward value { cup, events := desk.events ++ records.map Event.told }
    refine ⟨records ++ more, List.forall_mem_append.mpr ⟨low, low'⟩, ?_⟩
    rw [List.map_append, ← Tray.appendList_append]
    exact ran'

theorem follows_pure (value : α) : Follows (pure value : Watched σ α) (pure value) :=
  fun desk => ⟨[], List.forall_mem_nil _, by simp; rfl⟩

/-- If each of some runs follows its play, all of them in order do. -/
theorem follows_mapM {runs : String → Watched σ α} {plays : String → Play σ α}
    (each : ∀ text, (runs text).Follows (plays text)) (texts : List String) :
    Follows (texts.mapM runs) (texts.mapM plays) := by
  induction texts with
  | nil => exact follows_pure []
  | cons text texts ih =>
    rw [List.mapM_cons, List.mapM_cons]
    exact (each text).bind fun value => ih.bind fun values => follows_pure (value :: values)

/-- When the values are there, they are printed, and the run cannot fail any more. -/
theorem Follows.ofRun_printAll [ToString α] {run : Watched σ (List α)} {play : Play σ (List α)}
    (follows : run.Follows play) (cup : Cup σ) :
    ∃ records : List Record, (∀ record ∈ records, record.level ≤ .debug) ∧
      Transcript.ofRun ((run >>= printAll) { cup }) =
        .ofOutcome records ((play cup).1.map (·.map toString)) := by
  obtain ⟨records, low, ran⟩ := follows { cup }
  refine ⟨records, low, ?_⟩
  rw [Play.bind_eq, ran]
  cases (play cup).1 with
  | error fault => simp [Transcript.ofRun, Transcript.ofOutcome, Except.map]
  | ok values =>
    simp [printAll, emitAll_eq, Transcript.ofRun, Transcript.ofOutcome, Except.map]

variable [FaceSource σ]

/-- Rolling a formula is told of on the way, and is the same play. -/
theorem follows_rollFormula (text : String) :
    Follows (rollFormula text : Watched σ Roll) (Cup.rollFormula text) := by
  rintro ⟨⟨source, limits⟩, events⟩
  cases read : Formula.parse limits text with
  | error fault =>
    refine ⟨[], List.forall_mem_nil _, ?_⟩
    rw [Cup.rollFormula_of_error read]
    simp only [rollFormula, Play.bind_eq, get_eq, liftM_eq, read]
    rfl
  | ok formula =>
    have faces : formula.faces source =
        (formula.select (formula.rollOut source).faces.toList, (formula.rollOut source).source) :=
      rfl
    let roll := Roll.ofFaces text (formula.faces source).1 formula.modifier
    let log := (formula.rollOut source).log.toList
    refine ⟨.parsed text formula :: (log ++ [.rolled text roll.total]), ?levels, ?_⟩
    case levels =>
      refine List.forall_mem_cons.mpr ⟨Level.le_refl _, List.forall_mem_append.mpr ⟨?_, ?_⟩⟩
      · intro record member
        rw [show log = _ from formula.log_rollOut source] at member
        rw [Block.level_of_mem_log member]
        decide
      · exact List.forall_mem_singleton.mpr (Level.le_refl _)
    rw [Cup.rollFormula_of_ok read]
    simp only [rollFormula, Play.bind_eq, get_eq, liftM_eq, read, emit_eq, modify_eq, emitAll_eq]
    refine Prod.ext rfl (congrArg (Desk.mk _) (Array.ext' ?_))
    simp [roll, log, faces]

/-- Rolling a compound text is told of on the way, and is the same play. -/
theorem follows_roll (text : String) :
    Follows (roll text : Watched σ (List Roll)) (Cup.roll text) :=
  follows_mapM follows_rollFormula (Formula.parts text)

/-- Tallying a compound text is told of on the way, and is the same play. -/
theorem follows_tally (text condition : String) :
    Follows (tally text condition : Watched σ (List Tally)) (Cup.tally text condition) := by
  cases read : Comparison.parse condition with
  | error fault =>
    intro desk
    refine ⟨[], List.forall_mem_nil _, ?_⟩
    rw [Cup.tally_of_error read]
    simp only [tally, Play.bind_eq, liftM_eq, read]
    rfl
  | ok comparison =>
    unfold tally Cup.tally
    rw [read]
    exact (follows_roll text).bind fun rolls => follows_pure _

end Watched

section Write

/-- What the event adds to the output. -/
def Event.output : Event → String
  | printed line => line ++ "\n"
  | told _ | reported _ => ""

/-- What the event with this index adds to the error output. -/
def Event.errorOutput (diagnostics : Diagnostics) (index : Nat) : Event → String
  | told record => if diagnostics.wants record then diagnostics.render index record else ""
  | printed _ => ""
  | reported fault => s!"Error: {fault.message}{diagnostics.backtrace}\n"

/-- An event is written to the end of what was written before. -/
theorem Event.write_eq (diagnostics : Diagnostics) (index : Nat) (event : Event)
    (streams : Streams) :
    (event.write diagnostics index : StateM Streams Unit) streams =
      ((), { out := streams.out ++ event.output
             err := streams.err ++ event.errorOutput diagnostics index }) := by
  cases event with
  | told record =>
    cases shown : diagnostics.wants record <;>
      simp only [write, shown, output, errorOutput, ↓reduceIte, Bool.false_eq_true,
        String.append_empty] <;> rfl
  | printed line =>
    simp only [write, output, errorOutput, String.append_empty]
    rfl
  | reported fault =>
    simp only [write, output, errorOutput, String.append_empty]
    rfl

/-- Events are written one behind the other. -/
theorem writeFrom_eq (diagnostics : Diagnostics) (events : List Event) (first : Nat)
    (streams : Streams) :
    ((events.zipIdx first).forM fun (event, index) => event.write diagnostics index :
        StateM Streams Unit) streams =
      ((), { out := streams.out ++ String.join (events.map Event.output)
             err := streams.err ++ String.join ((events.zipIdx first).map fun (event, index) =>
               event.errorOutput diagnostics index) }) := by
  induction events generalizing first streams with
  | nil => simp; rfl
  | cons event events ih =>
    have split (next : Unit → StateM Streams Unit) :
        (event.write diagnostics first >>= next : StateM Streams Unit) streams =
          next () ((event.write diagnostics first : StateM Streams Unit) streams).2 := rfl
    simp only [List.zipIdx_cons, List.map_cons, String.join_cons, ← String.append_assoc]
    refine (split _).trans ?_
    rw [Event.write_eq]
    exact ih _ _

/-- What is shown of these records, which are the first events of a run. -/
def Diagnostics.log (diagnostics : Diagnostics) (records : List Record) : String :=
  String.join (records.zipIdx.map fun (record, index) =>
    if diagnostics.wants record then diagnostics.render index record else "")

/-- What a finished run has left tells its outcome: each value on a line of its own, in order, or
the message of the fault and no line at all. Apart from the fault the error output holds just the
log. -/
structure Tells (log backtrace : String) (outcome : Except Fault (List String))
    (finished : UInt32 × Streams) : Prop where
  all : ∀ lines, outcome = .ok lines →
    finished = (0, { out := String.join (lines.map (· ++ "\n")), err := log })
  nothing : ∀ fault, outcome = .error fault →
    finished = (1, { out := "", err := log ++ s!"Error: {fault.message}{backtrace}\n" })

section Tells

variable {log backtrace log' backtrace' : String} {outcome outcome' : Except Fault (List String)}
  {finished finished' : UInt32 × Streams}

/-- A run that tells its outcome has the code zero exactly if there are values. -/
theorem Tells.exitCode_eq_zero_iff (tells : Tells log backtrace outcome finished) :
    finished.1 = 0 ↔ ∃ lines, outcome = .ok lines := by
  cases outcome with
  | error fault =>
    rw [tells.nothing fault rfl]
    simp only [reduceCtorEq, exists_false, iff_false]
    decide
  | ok lines =>
    rw [tells.all lines rfl]
    simp only [Except.ok.injEq, exists_eq']

/-- Runs whose outcomes have the same faults end alike. -/
theorem Tells.ends_alike (tells : Tells log backtrace outcome finished)
    (tells' : Tells log' backtrace' outcome' finished')
    (alike : ∀ fault, outcome = .error fault ↔ outcome' = .error fault) :
    finished.1 = finished'.1 ∧
      (log = log' → backtrace = backtrace' → finished.2.err = finished'.2.err) := by
  cases outcome with
  | error fault =>
    rw [tells.nothing fault rfl, tells'.nothing fault ((alike fault).mp rfl)]
    exact ⟨rfl, by rintro rfl rfl; rfl⟩
  | ok lines =>
    cases outcome' with
    | error fault => cases (alike fault).mpr rfl
    | ok lines' =>
      rw [tells.all lines rfl, tells'.all lines' rfl]
      exact ⟨rfl, fun same _ => same⟩

end Tells

theorem join_replicate_empty (count : Nat) : String.join (List.replicate count "") = "" := by
  induction count with
  | zero => rfl
  | succ count ih => rw [List.replicate_succ, String.join_cons, ih, String.append_empty]

/-- What is written of a transcript tells the outcome of the run. -/
theorem tells_write_ofOutcome (diagnostics : Diagnostics) (records : List Record)
    (outcome : Except Fault (List String)) :
    let transcript := Transcript.ofOutcome records outcome
    Tells (diagnostics.log records) diagnostics.backtrace outcome
      (transcript.exitCode, ((transcript.write diagnostics : StateM Streams Unit) {}).2) where
  all := by
    rintro lines rfl
    simp only [Transcript.ofOutcome, Transcript.write, writeFrom_eq]
    simp [List.zipIdx_append, List.zipIdx_map, Function.comp_def, Event.output, Event.errorOutput,
      Diagnostics.log, join_replicate_empty]
  nothing := by
    rintro fault rfl
    simp only [Transcript.ofOutcome, Transcript.write, writeFrom_eq]
    simp [List.zipIdx_append, List.zipIdx_map, Function.comp_def, Event.output, Event.errorOutput,
      Diagnostics.log, join_replicate_empty]

end Write

/-- The surroundings of the program keep quiet: no record is shown that is meant for those who look
for faults, and nothing behind the message of a fault. -/
structure Diagnostics.Quiet (diagnostics : Diagnostics) : Prop where
  silent : ∀ record, diagnostics.wants record → .info ≤ record.level
  untraced : diagnostics.backtrace = ""

namespace Diagnostics

variable {diagnostics : Diagnostics}

/-- Where no records are asked for, it is quiet if the directive for warnings lets nothing through
below them. -/
theorem quiet_of_unasked (unasked : diagnostics.asked = none)
    (warnings : ∀ record, diagnostics.filter "warn" record → .warn ≤ record.level)
    (untraced : diagnostics.backtrace = "") : diagnostics.Quiet where
  silent := by
    intro record wanted
    rw [wants, unasked, Option.getD_none] at wanted
    exact Nat.le_trans (by decide) (warnings record wanted)
  untraced := untraced

/-- In quiet surroundings records for those who look for faults are not shown. -/
theorem Quiet.log_eq (quiet : diagnostics.Quiet) {records : List Record}
    (low : ∀ record ∈ records, record.level ≤ .debug) : diagnostics.log records = "" := by
  have hidden : ∀ entry ∈ records.zipIdx,
      (if diagnostics.wants entry.1 then diagnostics.render entry.2 entry.1 else "") = "" := by
    intro entry member
    refine if_neg fun wanted => ?_
    have above := quiet.silent entry.1 wanted
    have below := low entry.1 (List.fst_mem_of_mem_zipIdx member)
    exact absurd (Nat.le_trans above below) (by decide)
  rw [log, List.map_congr_left hidden, List.map_const', join_replicate_empty]

end Diagnostics

namespace Request

/-- The condition is one, if there is a condition. -/
def ConditionAccepted (request : Request) : Prop :=
  ∀ condition, request.condition = some condition →
    ∃ comparison, Comparison.parse condition = .ok comparison

/-- Condition and text are written as they have to be, and the dice are within the limits. -/
structure Accepted (request : Request) : Prop where
  condition : request.ConditionAccepted
  parts : Cup.Accepted request.limits (Formula.parts request.text)

/-- The fault is the first that is found with the request: that of the condition, or else that of
the first part which is no formula, however many parts stand before it. -/
inductive FaultedBy (request : Request) : Fault → Prop where
  | condition {condition : String} {fault : Fault} (given : request.condition = some condition)
      (rejected : Comparison.parse condition = .error fault) : FaultedBy request fault
  | part {before : List String} {bad : String} {fault : Fault}
      (condition : request.ConditionAccepted)
      (first : Cup.FirstRejected request.limits (Formula.parts request.text) before bad fault) :
      FaultedBy request fault

section Call

variable {σ : Type} [FaceSource σ] {request : Request} {condition : String} {fault : Fault}

/-- What the request comes to with a source: the text of each tally, or of each roll if there is no
condition. -/
def call (request : Request) (source : σ) : Except Fault (List String) :=
  let cup : Cup σ := { source, limits := request.limits }
  match request.condition with
  | some condition => (Cup.tally request.text condition cup).1.map (·.map toString)
  | none => (Cup.roll request.text cup).1.map (·.map toString)

theorem call_of_none (given : request.condition = none) (source : σ) :
    request.call source =
      (Cup.roll request.text { source, limits := request.limits }).1.map (·.map toString) := by
  rw [call, given]

theorem call_of_some (given : request.condition = some condition) (source : σ) :
    request.call source =
      (Cup.tally request.text condition { source, limits := request.limits }).1.map
        (·.map toString) := by
  rw [call, given]

/-- What is seen of a run are its records, and then what it comes to. -/
theorem exists_transcript_eq (request : Request) (source : σ) :
    ∃ records : List Record, (∀ record ∈ records, record.level ≤ .debug) ∧
      request.transcript source = .ofOutcome records (request.call source) := by
  unfold transcript run
  cases given : request.condition with
  | none =>
    rw [call_of_none given]
    exact (Watched.follows_roll request.text).ofRun_printAll _
  | some condition =>
    rw [call_of_some given]
    exact (Watched.follows_tally request.text condition).ofRun_printAll _

theorem conditionAccepted_of_none (given : request.condition = none) :
    request.ConditionAccepted := by
  intro condition other
  cases given.symm.trans other

theorem conditionAccepted_iff_of_some (given : request.condition = some condition) :
    request.ConditionAccepted ↔ ∃ comparison, Comparison.parse condition = .ok comparison := by
  simp only [ConditionAccepted, given, Option.some.injEq, forall_eq']

theorem accepted_iff : request.Accepted ↔
    request.ConditionAccepted ∧ Cup.Accepted request.limits (Formula.parts request.text) :=
  ⟨fun accepted => ⟨accepted.condition, accepted.parts⟩, fun both => ⟨both.1, both.2⟩⟩

/-- A request comes to values exactly if all of it is accepted, whatever the source is. -/
theorem exists_call_eq_ok_iff (source : σ) :
    (∃ lines, request.call source = .ok lines) ↔ request.Accepted := by
  rw [accepted_iff]
  cases given : request.condition with
  | none =>
    rw [call_of_none given, exists_map_except_eq_ok_iff, Cup.exists_roll_eq_ok_iff,
      and_iff_right (conditionAccepted_of_none given)]
  | some condition =>
    rw [call_of_some given, exists_map_except_eq_ok_iff, Cup.exists_tally_eq_ok_iff,
      conditionAccepted_iff_of_some given]

/-- A request comes to the first fault that is found with it, whatever the source is. -/
theorem call_eq_error_iff (source : σ) :
    request.call source = .error fault ↔ request.FaultedBy fault := by
  cases given : request.condition with
  | none =>
    rw [call_of_none given, map_except_eq_error_iff, Cup.fst_roll_eq_error_iff]
    constructor
    · intro ⟨before, bad, first⟩
      exact .part (conditionAccepted_of_none given) first
    · intro faulted
      cases faulted with
      | condition other => cases given.symm.trans other
      | part _ first => exact ⟨_, _, first⟩
  | some condition =>
    rw [call_of_some given, map_except_eq_error_iff, Cup.fst_tally_eq_error_iff,
      ← Cup.parse_condition_eq_error_iff, ← conditionAccepted_iff_of_some given]
    constructor
    · rintro (rejected | ⟨accepted, before, bad, first⟩)
      · exact .condition given rejected
      · exact .part accepted first
    · intro faulted
      cases faulted with
      | condition other rejected =>
        cases given.symm.trans other
        exact .inl rejected
      | part accepted first => exact .inr ⟨accepted, _, _, first⟩

end Call

section Play

variable {γ δ : Type} [FaceSource γ] [FaceSource δ] {request : Request} {fault : Fault}

/-- What the request comes to with the generator that its seed asks for. -/
def outcome (request : Request) (generators : Generators γ δ) : Except Fault (List String) :=
  match request.seed with
  | some seed => request.call (generators.seeded seed)
  | none => request.call generators.unseeded

/-- What is seen of a run are its records, and then what it comes to with its generator. -/
theorem exists_play_eq (request : Request) (generators : Generators γ δ) :
    ∃ records : List Record, (∀ record ∈ records, record.level ≤ .debug) ∧
      request.play generators = .ofOutcome records (request.outcome generators) := by
  unfold play outcome
  cases request.seed with
  | none => exact request.exists_transcript_eq _
  | some seed => exact request.exists_transcript_eq _

/-- A request comes to values exactly if all of it is accepted, whatever the generators are. -/
theorem exists_outcome_eq_ok_iff (generators : Generators γ δ) :
    (∃ lines, request.outcome generators = .ok lines) ↔ request.Accepted := by
  unfold outcome
  cases request.seed <;> exact exists_call_eq_ok_iff _

/-- A request comes to the first fault that is found with it, whatever the generators are. -/
theorem outcome_eq_error_iff (generators : Generators γ δ) :
    request.outcome generators = .error fault ↔ request.FaultedBy fault := by
  unfold outcome
  cases request.seed <;> exact call_eq_error_iff _

/-- Which fault it is, if it is one, is the same with any seed. -/
theorem outcome_withSeed_eq_error_iff (seed : Option UInt64) (generators : Generators γ δ) :
    ({ request with seed }).outcome generators = .error fault ↔ request.FaultedBy fault := by
  -- A request is called without a look at its seed, which only chooses the generator.
  cases seed with
  | none =>
    change request.call generators.unseeded = .error fault ↔ _
    exact call_eq_error_iff _
  | some seed =>
    change request.call (generators.seeded seed) = .error fault ↔ _
    exact call_eq_error_iff _

/-- What a run writes tells its outcome, behind what is shown of its records. -/
theorem exists_tells_main (request : Request) (generators : Generators γ δ) :
    ∃ records : List Record, (∀ record ∈ records, record.level ≤ .debug) ∧
      request.play generators = .ofOutcome records (request.outcome generators) ∧
      ∀ diagnostics : Diagnostics,
        Tells (diagnostics.log records) diagnostics.backtrace (request.outcome generators)
          ((request.main generators diagnostics : StateM Streams UInt32).run {}) := by
  obtain ⟨records, low, played⟩ := request.exists_play_eq generators
  refine ⟨records, low, played, fun diagnostics => ?_⟩
  have tells := tells_write_ofOutcome diagnostics records (request.outcome generators)
  rw [← played] at tells
  exact tells

/-- **All or nothing.** What is seen of a run are records for those who look for faults, and then
either one line for each value that the roll comes to, or the tally if there is a condition, and the
code zero; or else just the fault, even if it is found late, and the code one. So much is written to
the console, and if the surroundings keep quiet nothing more. The values are printed exactly if the
condition, if any, is one and each part of the text can be rolled within the limits; else the fault
is the first in the request. The code and the error are hence the same with any seed or with none,
whatever the generators are. -/
theorem all_or_nothing (request : Request) (generators : Generators γ δ) :
    let outcome := request.outcome generators
    let finished (diagnostics : Diagnostics) : UInt32 × Streams :=
      (request.main generators diagnostics : StateM Streams UInt32).run {}
    (∃ records : List Record, (∀ record ∈ records, record.level ≤ .debug) ∧
      request.play generators = .ofOutcome records outcome ∧
      ∀ diagnostics, Tells (diagnostics.log records) diagnostics.backtrace outcome
        (finished diagnostics)) ∧
    (∀ fault, outcome = .error fault ↔ request.FaultedBy fault) ∧
    ∀ diagnostics : Diagnostics,
      (diagnostics.Quiet → Tells "" "" outcome (finished diagnostics)) ∧
      ((finished diagnostics).1 = 0 ↔ request.Accepted) ∧
      ∀ {γ' δ' : Type} [FaceSource γ'] [FaceSource δ'] (seed : Option UInt64)
        (generators' : Generators γ' δ') (diagnostics' : Diagnostics),
        let other := { request with seed }
        let finished' : UInt32 × Streams :=
          (other.main generators' diagnostics' : StateM Streams UInt32).run {}
        (∀ fault, outcome = .error fault ↔ other.outcome generators' = .error fault) ∧
          (finished diagnostics).1 = finished'.1 ∧
          (diagnostics.Quiet → diagnostics'.Quiet →
            (finished diagnostics).2.err = finished'.2.err) := by
  intro outcome finished
  obtain ⟨records, low, played, tells⟩ := request.exists_tells_main generators
  refine ⟨⟨records, low, played, tells⟩, fun fault => outcome_eq_error_iff generators,
    fun diagnostics => ⟨fun quiet => ?quiet, ?code, ?other⟩⟩
  case quiet =>
    have told := tells diagnostics
    rwa [quiet.log_eq low, quiet.untraced] at told
  case code =>
    exact (tells diagnostics).exitCode_eq_zero_iff.trans (exists_outcome_eq_ok_iff generators)
  case other =>
    intro γ' δ' _ _ seed generators' diagnostics' other finished'
    obtain ⟨records', low', -, tells'⟩ := other.exists_tells_main generators'
    have alike (fault : Fault) :
        outcome = .error fault ↔ other.outcome generators' = .error fault :=
      (outcome_eq_error_iff generators).trans (outcome_withSeed_eq_error_iff seed generators').symm
    obtain ⟨code, error⟩ := (tells diagnostics).ends_alike (tells' diagnostics') alike
    refine ⟨alike, code, fun quiet quiet' => error ?_ ?_⟩
    · rw [quiet.log_eq low, quiet'.log_eq low']
    · rw [quiet.untraced, quiet'.untraced]

/-- Two dice are rolled without a seed and printed. With a part behind them that keeps none of its
dice they are rolled all the same, with a seed, and not printed. -/
theorem all_or_nothing_late_fault :
    let generators : Generators WordCycle Replay :=
      { seeded := fun seed => { words := #[seed] }, unseeded := Replay.ofFaces 6 [3, 5] }
    let diagnostics : Diagnostics :=
      { asked := none
        filter := fun directive record => directive == "warn" && decide (.warn ≤ record.level)
        render := fun index record => s!"{index} {record.message}\n"
        backtrace := "" }
    let finished (request : Request) : UInt32 × Streams :=
      (request.main generators diagnostics : StateM Streams UInt32).run {}
    let late : Request := { text := "2d6, 4d6kl0", seed := some 7 }
    diagnostics.Quiet ∧
      finished { text := "2d6+1" } = (0, { out := "2d6+1: [3, 5] = 9\n", err := "" }) ∧
      finished late = (1, { out := "", err := "Error: Cannot keep zero dice.\n" }) ∧
      (finished { late with seed := none }).2.err = "Error: Cannot keep zero dice.\n" := by
  intro generators diagnostics finished late
  have warnings (record : Record) (shown : diagnostics.filter "warn" record) :
      .warn ≤ record.level := by
    simpa only [diagnostics, BEq.rfl, Bool.true_and, decide_eq_true_eq] using shown
  have quiet : diagnostics.Quiet := Diagnostics.quiet_of_unasked rfl warnings rfl
  obtain ⟨-, -, printed⟩ := all_or_nothing { text := "2d6+1" } generators
  obtain ⟨-, faulted, reported⟩ := all_or_nothing late generators
  have rolled : ({ text := "2d6+1" } : Request).outcome generators = .ok ["2d6+1: [3, 5] = 9"] := by
    decide +kernel
  have first : Cup.FirstRejected {} (Formula.parts "2d6, 4d6kl0") ["2d6"] "4d6kl0"
      (.unrollable .keepZero) := {
    split := ⟨[], rfl⟩
    accepted := List.forall_mem_singleton.mpr ⟨_, rfl⟩
    rejected := rfl }
  have failed : late.outcome generators = .error (.unrollable .keepZero) :=
    (faulted _).mpr (.part (conditionAccepted_of_none rfl) first)
  have told := ((printed diagnostics).1 quiet).all _ rolled
  obtain ⟨tells, -, alike⟩ := reported diagnostics
  have ended := (tells quiet).nothing _ failed
  refine ⟨quiet, told, ended, ?_⟩
  rw [← (alike none generators diagnostics).2.2 quiet quiet]
  exact congrArg (·.2.err) ended

end Play

end Request
end TabletopDice
