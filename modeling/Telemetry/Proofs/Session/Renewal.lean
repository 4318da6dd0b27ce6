import Telemetry.Proofs.Concurrency.Publication
import Telemetry.Proofs.History.Provenance
import Telemetry.Proofs.Intake.Live
import Telemetry.Proofs.Intake.Requests
import Telemetry.Proofs.Route.Run
import Telemetry.Session

/-!
A cleared session goes on like a new one.

Main statement: after a clear nothing is displayed, and whatever is done then has the effect
that it has on a new session with the same settings, except that generations keep their
numbering.
-/

set_option autoImplicit false

namespace Telemetry

open Route (Registration Tree)

namespace Route.Tree

theorem limits_submit (tree : Tree) (registration : Registration) :
    (registration.submit tree).2.limits = tree.limits :=
  (registration.visit_submit tree).frame.2.trans (tree.limits_learnDomain _)

theorem limits_track (tree : Tree) (event : HttpEvent) (appId : String) (now : Instant) :
    (tree.track event appId now).2.limits = tree.limits := by
  rcases track_cases (Prod.eta (tree.track event appId now)).symm with
    ⟨_, -, -, same⟩ | ⟨_, -, visit⟩
  · rw [same]
  · exact visit.frame.2

end Route.Tree

namespace Figures

theorem Live.limits {config : Config} {figures : Figures} (live : figures.Live config) :
    figures.routes.limits = config.routes := by
  induction live with
  | create => rfl
  | @event figures stream envelope now live ih =>
    rcases figures.routes_apply config ⟨stream, envelope, now⟩ with same | ⟨event, appId, tracked⟩
    · rw [same, ih]
    · rw [tracked, Tree.limits_track, ih]
  | @register figures registration live ih => exact (Tree.limits_submit _ _).trans ih
  | clear live ih => exact ih

theorem Live.routes {config : Config} {figures : Figures} (live : figures.Live config) :
    ∃ acts, figures.routes = (Tree.create config.routes).performAll acts := by
  induction live with
  | create => exact ⟨[], rfl⟩
  | @event figures stream envelope now live ih =>
    obtain ⟨acts, reached⟩ := ih
    rcases figures.routes_apply config ⟨stream, envelope, now⟩ with same | ⟨event, appId, tracked⟩
    · exact ⟨acts, same.trans reached⟩
    · refine ⟨acts ++ [.track event appId now], ?_⟩
      rw [Tree.performAll_append, ← reached]
      exact tracked
  | @register figures registration live ih =>
    obtain ⟨acts, reached⟩ := ih
    refine ⟨acts ++ [.register registration], ?_⟩
    rw [Tree.performAll_append, ← reached]
    rfl
  | clear live ih => exact ⟨[], congrArg Tree.create live.limits⟩

end Figures

namespace Board

def ahead (k : Nat) (board : Board) : Board :=
  { board with
    latest := board.latest + k
    displayed := { board.displayed with generation := board.displayed.generation + k } }

variable (k : Nat) (board : Board)

theorem publish_ahead (snapshot : Snapshot) :
    (board.ahead k).publish { snapshot with generation := snapshot.generation + k } =
      (board.publish snapshot).ahead k := by
  have order : snapshot.generation + k < (board.ahead k).displayed.generation ↔
      snapshot.generation < board.displayed.generation := Nat.add_lt_add_iff_right
  unfold publish
  simp only [order]
  split <;> rfl

theorem publish_draft_ahead (processed : Nat) (figures : Figures) (now : Instant) :
    ({ board.ahead k with latest := board.latest + k + 1 } : Board).publish
        (Draft.finalize ⟨board.latest + k + 1, processed, figures⟩ now board.threshold) =
      (({ board with latest := board.latest + 1 } : Board).publish
        (Draft.finalize ⟨board.latest + 1, processed, figures⟩ now board.threshold)).ahead k := by
  rw [← publish_ahead]
  simp only [ahead, Draft.finalize, Nat.add_right_comm _ k 1]

theorem take_ahead (intake : Intake) (now : Instant) :
    (board.ahead k).take intake now = (board.take intake now).ahead k :=
  publish_draft_ahead k board _ _ now

theorem reset_ahead (intake : Intake) (now : Instant) :
    (board.ahead k).reset intake now = (board.reset intake now).ahead k :=
  publish_draft_ahead k board _ _ now

theorem advances_take (intake : Intake) (now : Instant) :
    Advances board (board.take intake now) := by
  have numbered : Advances board (board.copy intake).2 :=
    ⟨Nat.le_succ _, Nat.le_refl _, rfl⟩
  exact numbered.trans (advances_publish _ _)

theorem advances_reset (intake : Intake) (now : Instant) :
    Advances board (board.reset intake now) := by
  have numbered : Advances board (board.blank intake).2 :=
    ⟨Nat.le_succ _, Nat.le_refl _, rfl⟩
  exact numbered.trans (advances_publish _ _)

variable {board}

theorem publish_eq (displayed : board.displayed.generation ≤ board.latest) (snapshot : Snapshot)
    (numbered : snapshot.generation = board.latest + 1) :
    ({ board with latest := board.latest + 1 } : Board).publish snapshot =
      { board with latest := board.latest + 1, displayed := snapshot } := by
  unfold publish
  have new : board.displayed.generation ≤ snapshot.generation := by omega
  exact if_neg (Nat.not_lt_of_le new)

theorem take_eq (displayed : board.displayed.generation ≤ board.latest) (intake : Intake)
    (now : Instant) : board.take intake now =
      { board with
        latest := board.latest + 1
        displayed := (board.copy intake).1.finalize now board.threshold } :=
  publish_eq displayed _ rfl

theorem reset_eq (displayed : board.displayed.generation ≤ board.latest) (intake : Intake)
    (now : Instant) : board.reset intake now =
      { board with
        latest := board.latest + 1
        displayed := (board.blank intake).1.finalize now board.threshold } :=
  publish_eq displayed _ rfl

end Board

namespace Session

def submit (session : Session) (registration : Registration) : Session :=
  { session with intake := session.intake.submit registration }

example (session : Session) (domain host path id : String) :
    (session.register domain host path id).2 = session.submit (.path domain host path id) := rfl

inductive Act where
  | event (arrival : Arrival)
  | register (registration : Registration)
  | publish (now : Instant)
  | tick (now : Instant)
  | clear (now : Instant)
  | openStream (stream : Nat)
  | send (handle : Nat) (envelope : Envelope) (now : Instant)
  | start
  | shutdown
  | pass (span : Span) (now : Instant)

/-- Acts after which a session has streams of its own or timers that run. -/
def Act.isSetup : Act → Bool
  | openStream _ | start => true
  | _ => false

/-- An event that is sent through a handle of no stream is lost. -/
def perform (session : Session) : Act → Session
  | .event arrival => session.process arrival.stream arrival.envelope arrival.now
  | .register registration => session.submit registration
  | .publish now => session.publish now
  | .tick now => session.tick now
  | .clear now => session.clear now
  | .openStream stream => (session.openStream stream).2
  | .send handle envelope now => (session.send? handle envelope now).getD session
  | .start => session.start
  | .shutdown => session.shutdown
  | .pass span now => session.pass span now

def run (session : Session) (acts : List Act) : Session := acts.foldl perform session

theorem run_append (session : Session) (first second : List Act) :
    session.run (first ++ second) = (session.run first).run second :=
  List.foldl_append

theorem times_induction {motive : Session → Prop} {action : Session → Session}
    (keeps : ∀ session, motive session → motive (action session)) (n : Nat) {session : Session}
    (holds : motive session) : motive (session.times n action) := by
  induction n with
  | zero => exact holds
  | succ n ih => exact keeps _ ih

theorem pass_induction {motive : Session → Prop} {session : Session} (span : Span) {now : Instant}
    (publish : ∀ later, motive later → motive (later.publish now))
    (tick : ∀ later, motive later → motive (later.tick now))
    (timers : ∀ later timers, motive later → motive { later with timers })
    (holds : motive session) : motive (session.pass span now) := by
  unfold pass
  split
  · exact holds
  · exact timers _ _ (times_induction tick _ (times_induction publish _ holds))

section
variable (k : Nat) (session : Session)

def ahead : Session := { session with board := session.board.ahead k }

theorem publish_ahead (now : Instant) :
    (session.ahead k).publish now = (session.publish now).ahead k :=
  congrArg (fun board => { session with board }) (session.board.take_ahead k session.intake now)

theorem clear_ahead (now : Instant) :
    (session.ahead k).clear now = (session.clear now).ahead k :=
  congrArg (fun board => { session.clear now with board })
    (session.board.reset_ahead k session.intake.clear now)

theorem send?_ahead (handle : Nat) (envelope : Envelope) (now : Instant) :
    (session.ahead k).send? handle envelope now =
      (session.send? handle envelope now).map (·.ahead k) := by
  unfold send?
  rw [Option.map_map]
  rfl

theorem times_ahead {action : Session → Session}
    (commutes : ∀ session : Session, action (session.ahead k) = (action session).ahead k)
    (n : Nat) : (session.ahead k).times n action = (session.times n action).ahead k := by
  induction n with
  | zero => rfl
  | succ n ih => exact (congrArg action ih).trans (commutes _)

theorem pass_ahead (span : Span) (now : Instant) :
    (session.ahead k).pass span now = (session.pass span now).ahead k := by
  have published := fun session : Session => publish_ahead k session now
  have ticked : ∀ session : Session, (session.ahead k).tick now = (session.tick now).ahead k :=
    fun _ => rfl
  have same : (session.ahead k).timers = session.timers := rfl
  unfold pass
  rw [same]
  cases session.timers with
  | none => rfl
  | some timers =>
    dsimp only
    rw [times_ahead k session published, times_ahead k _ ticked]
    rfl

theorem perform_ahead (act : Act) :
    (session.ahead k).perform act = (session.perform act).ahead k := by
  cases act with
  | event | register | tick | openStream | start | shutdown => rfl
  | publish now => exact publish_ahead k session now
  | clear now => exact clear_ahead k session now
  | pass span now => exact pass_ahead k session span now
  | send handle envelope now =>
    show ((session.ahead k).send? handle envelope now).getD (session.ahead k) =
      ((session.send? handle envelope now).getD session).ahead k
    rw [send?_ahead]
    cases session.send? handle envelope now <;> rfl

theorem run_ahead (acts : List Act) :
    (session.ahead k).run acts = (session.run acts).ahead k := by
  induction acts generalizing session with
  | nil => rfl
  | cons act rest ih =>
    have later := ih (session.perform act)
    rw [← perform_ahead] at later
    exact later

end

structure Sound (config : Config) (session : Session) : Prop where
  settings : session.config = config
  intake : session.intake.config = config
  figures : session.intake.figures.Live config
  threshold : session.board.threshold = config.staleThreshold
  displayed : session.board.displayed.generation ≤ session.board.latest
  history : History.Arises config.history session.recorder.history

section
variable {config : Config} {session : Session}

theorem sound_create (config : Config) (now : Instant) : (create config now).Sound config where
  settings := rfl
  intake := rfl
  figures := .create
  threshold := rfl
  displayed := Nat.le_refl 0
  history := .create now

theorem Sound.process (sound : session.Sound config) (stream : Nat) (envelope : Envelope)
    (now : Instant) : (session.process stream envelope now).Sound config := by
  obtain ⟨settings, intake, figures, threshold, displayed, history⟩ := sound
  have live : (session.intake.process stream envelope now).figures.Live config := by
    rw [← intake] at figures ⊢
    exact Intake.live_process figures stream envelope now
  exact ⟨settings, intake, live, threshold, displayed, history⟩

theorem Sound.publish (sound : session.Sound config) (now : Instant) :
    (session.publish now).Sound config := by
  refine { sound with threshold := ?_, displayed := ?_ }
  · exact (session.board.advances_take session.intake now).threshold.trans sound.threshold
  · rw [Session.publish, Board.take_eq sound.displayed]
    exact Nat.le_refl _

theorem Sound.tick (sound : session.Sound config) (now : Instant) :
    (session.tick now).Sound config :=
  { sound with history := sound.history.tick session.intake.counters now }

theorem Sound.clear (sound : session.Sound config) (now : Instant) :
    (session.clear now).Sound config := by
  refine { sound with figures := ?_, threshold := ?_, displayed := ?_, history := ?_ }
  · exact sound.figures.clear
  · exact (session.board.advances_reset session.intake.clear now).threshold.trans sound.threshold
  · rw [Session.clear, Board.reset_eq sound.displayed]
    exact Nat.le_refl _
  · exact sound.history.clear now

theorem Sound.perform (sound : session.Sound config) (act : Act) :
    (session.perform act).Sound config := by
  cases act with
  | event arrival => exact sound.process arrival.stream arrival.envelope arrival.now
  | register registration => exact { sound with figures := sound.figures.register registration }
  | publish now => exact sound.publish now
  | tick now => exact sound.tick now
  | clear now => exact sound.clear now
  | openStream | start | shutdown => exact { sound with }
  | pass span now =>
    exact pass_induction span (fun _ sound => sound.publish now) (fun _ sound => sound.tick now)
      (fun _ _ sound => { sound with }) sound
  | send handle envelope now =>
    show ((session.streams[handle]?.map fun stream => _).getD session).Sound config
    cases session.streams[handle]? with
    | none => exact sound
    | some stream => exact sound.process stream envelope now

theorem Sound.run (sound : session.Sound config) (acts : List Act) :
    (session.run acts).Sound config := by
  induction acts generalizing session with
  | nil => exact sound
  | cons act rest ih => exact ih (sound.perform act)

end

theorem advances_perform (session : Session) (act : Act) :
    session.board.Advances (session.perform act).board := by
  cases act with
  | event | register | tick | openStream | start | shutdown => exact .refl _
  | publish now => exact session.board.advances_take session.intake now
  | clear now => exact session.board.advances_reset session.intake.clear now
  | pass span now =>
    refine pass_induction (motive := (session.board.Advances ·.board)) span ?_ ?_ ?_ (.refl _)
    · exact fun later advances => advances.trans (later.board.advances_take later.intake now)
    · exact fun _ advances => advances
    · exact fun _ _ advances => advances
  | send handle envelope now =>
    show session.board.Advances ((session.streams[handle]?.map fun stream => _).getD session).board
    cases session.streams[handle]? <;> exact .refl _

theorem advances_run (session : Session) (acts : List Act) :
    session.board.Advances (session.run acts).board := by
  induction acts generalizing session with
  | nil => exact .refl _
  | cons act rest ih => exact (session.advances_perform act).trans (ih _)

/-- A new session with the settings of another, on the streams and timers of the other. -/
def renew (session : Session) (now : Instant) : Session :=
  { create session.config now with streams := session.streams, timers := session.timers }

theorem bare_run {session : Session} (streams : session.streams = [])
    (timers : session.timers = none) {acts : List Act}
    (plain : ∀ act ∈ acts, act.isSetup = false) :
    (session.run acts).streams = [] ∧ (session.run acts).timers = none := by
  induction acts generalizing session with
  | nil => exact ⟨streams, timers⟩
  | cons act rest ih =>
    have kept : (session.perform act).streams = [] ∧ (session.perform act).timers = none := by
      cases act with
      | event | register | publish | tick | clear => exact ⟨streams, timers⟩
      | openStream | start => cases plain _ List.mem_cons_self
      | shutdown => exact ⟨streams, rfl⟩
      | pass span now =>
        rw [perform, pass, timers]
        exact ⟨streams, timers⟩
      | send handle envelope now =>
        rw [perform, send?, streams]
        exact ⟨streams, timers⟩
    exact ih kept.1 kept.2 fun act member => plain act (List.mem_cons_of_mem _ member)

theorem Sound.clear_eq {config : Config} {session : Session} (sound : session.Sound config)
    (now : Instant) : session.clear now = (session.renew now).ahead (session.board.latest + 1) := by
  have intake : session.intake.clear = .create session.config := by
    show ({ config := session.intake.config
            figures := .create session.intake.figures.routes.limits } : Intake) = _
    rw [sound.intake, sound.figures.limits, sound.settings]
    rfl
  have board : session.board.reset session.intake.clear now =
      (Board.create session.config now).ahead (session.board.latest + 1) := by
    rw [Board.reset_eq sound.displayed, intake]
    simp only [Board.ahead, Board.create, Nat.zero_add, sound.threshold, sound.settings]
    rfl
  have recorder : session.recorder.clear now = .create session.config.history now := by
    show (⟨session.recorder.history.clear now, []⟩ : Recorder) = _
    rw [sound.history.clear_eq, sound.settings]
    rfl
  rw [Session.clear, board, recorder, intake]
  rfl

/-- A clear leaves nothing on display and nothing behind: what is done from then on has the
effect it has on a new session with the same settings, streams and timers, except that every
number is higher than all before. -/
theorem clear_renews (config : Config) (created : Instant) (earlier : List Act) (now : Instant) :
    let before := (create config created).run earlier
    let cleared := before.clear now
    cleared.board.displayed = ⟨before.board.latest + 1, now, 0, .create config.routes⟩ ∧
    cleared.recorder.displayed = [] ∧
    (∀ later, cleared.run later = ((before.renew now).run later).ahead (before.board.latest + 1)) ∧
    ((∀ act ∈ earlier, act.isSetup = false) → before.renew now = create config now) ∧
    ∀ past later, past <+: earlier →
      ((create config created).run past).board.displayed.generation <
        (cleared.run later).board.displayed.generation := by
  intro before cleared
  have sound : before.Sound config := (sound_create config created).run earlier
  -- All that the clear keeps of the past is how high the numbers are.
  have renewed : cleared = (before.renew now).ahead (before.board.latest + 1) := sound.clear_eq now
  have display : cleared.board.displayed =
      ⟨before.board.latest + 1, now, 0, .create config.routes⟩ := by
    rw [renewed, ← sound.settings]
    simp only [ahead, renew, create, Board.ahead, Board.create, Nat.zero_add]
  refine ⟨display, rfl, ?_, ?_, ?_⟩
  · intro later
    rw [renewed, run_ahead]
  · intro plain
    obtain ⟨streams, timers⟩ := @bare_run (create config created) rfl rfl _ plain
    rw [renew, sound.settings, streams, timers]
    rfl
  · rintro past later ⟨rest, rfl⟩
    have sofar := ((sound_create config created).run past).displayed
    have onward := (((create config created).run past).advances_run rest).latest
    have beyond := (cleared.advances_run later).displayed
    rw [← run_append] at onward
    rw [display] at beyond
    exact Nat.lt_of_le_of_lt (sofar.trans onward) beyond

/-- One event on display and in the history, and another after the clear. -/
theorem clear_renews_counted :
    let event (now : Instant) : Act := .event ⟨7, { event := .unknown }, now⟩
    let earlier := [event 1, .publish 2, .tick 3]
    let later := [event 5, .publish 6]
    let before := (create {} 0).run earlier
    let after := (before.clear 4).run later
    before.board.displayed.processed = 1 ∧ before.recorder.displayed.length = 1 ∧
      after = ((create {} 4).run later).ahead 2 ∧
      after.board.displayed.processed = 1 ∧ after.recorder.displayed = [] ∧
      before.board.displayed.generation < after.board.displayed.generation := by
  intro event earlier later before after
  obtain ⟨-, -, same, plain, growing⟩ := clear_renews {} 0 earlier 4
  have renewed := same later
  rw [plain (by simp [earlier, event, Act.isSetup])] at renewed
  refine ⟨rfl, rfl, renewed, ?_, ?_, growing earlier later (List.prefix_refl _)⟩
  · rw [show after = _ from renewed]
    rfl
  · rw [show after = _ from renewed]
    rfl

end Session

end Telemetry
