import ReportCompiler.Export.Session
import ReportCompiler.Proofs.Compile.Sources
import ReportCompiler.Proofs.Export.Outcome
import ReportCompiler.Proofs.Metrics.Exports
import ReportCompiler.Proofs.Template.Payload

/-!
The counters of exports over a session. A call that returns or is refused for errors has counted its findings and
its end, a call that ends in any other way has counted neither; over a session the counters add up.
-/

namespace ReportCompiler

/-! ### Calls that end without a result -/

namespace Call

/-- Whether the call came as far as to count its end. -/
def Outcome.isCounted : Outcome → Bool
  | exported _ => true
  | hasErrors _ => true
  | _ => false

variable {α : Type}

theorem Outcome.not_isCounted_of_ofChecked (x : Payload.Checked α) (outcome : Outcome)
    (ended : ofChecked x = .error outcome) : outcome.isCounted = false := by
  cases x <;> cases ended
  rfl

theorem Outcome.not_isCounted_of_ofAttempt (x : Except Fault α) (outcome : Outcome)
    (ended : ofAttempt x = .error outcome) : outcome.isCounted = false := by
  cases x <;> cases ended
  rfl

theorem Outcome.ofChecked_eq_ok_iff (x : Payload.Checked α) (a : α) : ofChecked x = .ok a ↔ x = .valid a := by
  cases x <;> simp [ofChecked]

theorem Outcome.ofAttempt_eq_ok_iff (x : Except Fault α) (a : α) : ofAttempt x = .ok a ↔ x = .ok a := by
  cases x <;> simp [ofAttempt]

theorem not_isCounted_of_readPages (pages : Value) (outcome : Outcome)
    (ended : readPages pages = .error outcome) : outcome.isCounted = false := by
  rcases (Attempt.bind_eq_error_iff _ _ _).mp ended with unlisted | ⟨items, _, unread⟩
  · exact Outcome.not_isCounted_of_ofAttempt _ outcome unlisted
  · obtain ⟨page, _, failed⟩ := Attempt.exists_of_mapM_error _ items outcome unread
    exact Outcome.not_isCounted_of_ofChecked _ outcome failed

theorem not_isCounted_of_readWith (options : Value) (argument : Except Outcome α) (outcome : Outcome)
    (unread : ∀ other, argument = .error other → other.isCounted = false)
    (ended : readWith options argument = .error outcome) : outcome.isCounted = false := by
  rcases (Attempt.bind_eq_error_iff _ _ _).mp ended with first | ⟨wanted, _, later⟩
  · exact Outcome.not_isCounted_of_ofChecked _ outcome first
  · rcases (Attempt.bind_eq_error_iff _ _ _).mp later with second | ⟨_, _, impossible⟩
    · exact unread outcome second
    · cases impossible

theorem eq_ok_of_readWith (options : Value) (argument : Except Outcome α) (wanted : ExportOptions) (a : α)
    (read : readWith options argument = .ok (wanted, a)) : argument = .ok a := by
  obtain ⟨_, _, later⟩ := (Attempt.bind_eq_ok_iff _ _ _).mp read
  obtain ⟨_, given, same⟩ := (Attempt.bind_eq_ok_iff _ _ _).mp later
  cases same
  exact given

/-! ### Arguments without dates -/

/-- No argument has a date in it, as none has that comes as JSON. -/
def IsTimeless (call : Call) : Prop := ∀ argument ∈ call.arguments, argument.holdsDate = false

instance (call : Call) : Decidable call.IsTimeless :=
  inferInstanceAs (Decidable (∀ argument ∈ call.arguments, argument.holdsDate = false))

theorem allProps_of_readTree (value : Value) (tree : Tree) (timeless : value.holdsDate = false)
    (read : readTree value = .ok tree) : tree.AllProps Value.IsTimeless := by
  have leaves := (Value.holdsDate_eq_false_iff value).mp timeless
  exact Tree.keeps_ofPayload (fun _ => trivial) value tree leaves ((Outcome.ofChecked_eq_ok_iff _ _).mp read)

theorem all_items (value : Value) (items : List Value) (leaves : value.All Value.IsTimeless)
    (listed : value.items? = .ok items) : ∀ item ∈ items, item.All Value.IsTimeless := by
  cases value with
  | list others =>
      cases listed
      exact (Value.all_list _ _).mp leaves
  | object fields =>
      cases listed
      exact List.forall_mem_map.mpr fun field _ => trivial
  | text s =>
      cases listed
      exact List.forall_mem_map.mpr fun c _ => trivial
  | _ => cases listed

theorem allProps_of_readPages (value : Value) (pages : List Page) (timeless : value.holdsDate = false)
    (read : readPages value = .ok pages) : ∀ page ∈ pages, page.canvas.AllProps Value.IsTimeless := by
  have leaves := (Value.holdsDate_eq_false_iff value).mp timeless
  obtain ⟨items, first, second⟩ := (Attempt.bind_eq_ok_iff _ _ _).mp read
  intro page member
  obtain ⟨item, inside, made⟩ := Attempt.mem_of_mapM _ items pages second page member
  have listed := (Outcome.ofAttempt_eq_ok_iff _ _).mp first
  have payload := (Outcome.ofChecked_eq_ok_iff _ _).mp made
  exact Page.keeps_ofPayload (fun _ => trivial) false item page (all_items value items leaves listed item inside)
    payload

end Call

/-! ### What a call counts -/

namespace Performed

/-- What a call comes to, with all that it counts; before its end it may have requested images. -/
inductive Accounted : Performed → Prop
  | returned (call : Call) (kind : String) (counted : call.kind? = some kind) (images : List Bool)
      (duration : Number) (result : ExportResult) :
      Accounted
        { call
          outcome := .exported result
          events := images.map .asset ++ result.findings.map Finding.event ++
            [.finishedExport kind "success" duration result.widgetCount] }
  | refused (call : Call) (kind : String) (counted : call.kind? = some kind) (images : List Bool)
      (duration : Number) (findings : List Finding) :
      Accounted
        { call
          outcome := .hasErrors findings
          events := images.map .asset ++ findings.map Finding.event ++
            [.finishedExport kind "failed" duration 0] }
  | unfinished (call : Call) (outcome : Call.Outcome) (uncounted : outcome.isCounted = false)
      (images : List Bool) : Accounted { call, outcome, events := images.map .asset }

end Performed

namespace Exporter

variable (e : Exporter)

theorem assetEvents_eq (reports : List Asset.Report) :
    reports.flatMap assetEvents = (reports.flatMap Asset.Report.successes).map .asset := by
  rw [List.map_flatMap]
  rfl

/-- A finished export has counted what it found and how it ended, unless a fault ended it first. -/
theorem finish_accounted (call : Call) (kind : String) (counted : call.kind? = some kind)
    (reports : List Asset.Report) (compiled : Compiled) (data : Value) (options : ExportOptions)
    (entries : ∀ component ∈ compiled.components, Fields.All Value.IsTimeless component.props)
    (timeless : data.holdsDate = false) :
    (Performed.ofRun call (e.finish kind reports compiled data options)).Accounted := by
  obtain ⟨html, assembled⟩ := Document.assemble_succeeds compiled.html compiled.components data options
    e.settings entries timeless
  rw [finish, assetEvents_eq]
  cases bindingFindings compiled data with
  | error fault => exact .unfinished call (.fault fault) rfl _
  | ok unresolved =>
      dsimp only
      split
      · exact .refused call kind counted _ e.duration _
      · rw [assembled]
        exact .returned call kind counted _ e.duration _

theorem timeless_of_allProps (s : Surroundings) (standard : s.registry = .standard) (node : Node)
    (all : Fields.All Value.IsTimeless node.props) :
    ∀ component ∈ (Own.ofNode s node).components, Fields.All Value.IsTimeless component.props :=
  (Own.all_components_iff Value.IsTimeless admitsOwn_isTimeless.toAdmitsFixed s node standard all).mpr
    fun _ _ _ _ _ _ n _ => admitsOwn_isTimeless.number n

/-! ### One call -/

section Clients

variable {σ : Type} (client : Asset.ClientIn (StateM σ)) (start : σ)

theorem allProps_prepareWith (options : ExportOptions) (tree : Tree) (all : tree.AllProps Value.IsTimeless) :
    ((e.prepareWith client options tree).run start).1.1.AllProps Value.IsTimeless := by
  rw [prepareWith]
  split
  · exact Asset.all_replaceInTree Value.IsTimeless _ (fun _ => trivial) tree all
  · exact all

theorem mem_run_mapM {α β : Type} (f : α → StateM σ β) (xs : List α) (y : β)
    (made : y ∈ ((xs.mapM f).run start).1) : ∃ x ∈ xs, ∃ before, y = ((f x).run before).1 := by
  induction xs generalizing start with
  | nil => cases made
  | cons x rest ih =>
      rw [List.mapM_cons] at made
      rcases List.mem_cons.mp made with rfl | later
      · exact ⟨x, List.mem_cons_self, start, rfl⟩
      · obtain ⟨z, inside, same⟩ := ih _ later
        exact ⟨z, List.mem_cons_of_mem x inside, same⟩

theorem exportTreeWith_accounted (call : Call) (counted : call.kind? = some "single") (tree : Tree)
    (data : Value) (options : ExportOptions) (all : tree.AllProps Value.IsTimeless)
    (timeless : data.holdsDate = false) :
    (Performed.ofRun call ((e.exportTreeWith client tree data options).run start).1).Accounted := by
  refine e.finish_accounted call "single" counted _ _ data options ?_ timeless
  apply compile_forall_components
  intro entry listed
  exact timeless_of_allProps _ rfl entry.2 (e.allProps_prepareWith client start options tree all entry listed)

theorem exportPagesWith_accounted (call : Call) (counted : call.kind? = some "pages") (pages : List Page)
    (data : Value) (options : ExportOptions) (all : ∀ page ∈ pages, page.canvas.AllProps Value.IsTimeless)
    (timeless : data.holdsDate = false) :
    (Performed.ofRun call ((e.exportPagesWith client pages data options).run start).1).Accounted := by
  refine e.finish_accounted call "pages" counted _ _ data options ?_ timeless
  apply compilePages_forall_components
  intro page member entry listed
  obtain ⟨prepared, inside, rfl⟩ := List.mem_map.mp member
  obtain ⟨given, among, before, rfl⟩ := mem_run_mapM _ _ pages prepared inside
  have kept := e.allProps_prepareWith client before options given.canvas (all given among)
  exact timeless_of_allProps _ rfl entry.2 (kept entry listed)

/-- Every call counts what it comes to. -/
theorem perform_accounted (call : Call) (timeless : call.IsTimeless) :
    ((e.perform client call).run start).1.Accounted := by
  cases call with
  | exportTree tree data options =>
      obtain ⟨ofTree, ofData, _⟩ := List.forall_mem_cons.mp timeless |>.imp_right List.forall_mem_cons.mp
      rw [perform]
      split
      · next options tree read =>
          have all := Call.allProps_of_readTree _ tree ofTree (Call.eq_ok_of_readWith _ _ _ _ read)
          exact e.exportTreeWith_accounted client start _ rfl tree data options all ofData
      · next outcome unread =>
          have uncounted := Call.not_isCounted_of_readWith options _ outcome
            (fun other => Call.Outcome.not_isCounted_of_ofChecked _ other) unread
          exact .unfinished _ outcome uncounted []
  | exportPages pages data options =>
      obtain ⟨ofPages, ofData, _⟩ := List.forall_mem_cons.mp timeless |>.imp_right List.forall_mem_cons.mp
      rw [perform]
      split
      · next options pages read =>
          have all := Call.allProps_of_readPages _ pages ofPages (Call.eq_ok_of_readWith _ _ _ _ read)
          exact e.exportPagesWith_accounted client start _ rfl pages data options all ofData
      · next outcome unread =>
          have uncounted := Call.not_isCounted_of_readWith options _ outcome
            (Call.not_isCounted_of_readPages pages) unread
          exact .unfinished _ outcome uncounted []
  | validate tree data =>
      rw [perform]
      split
      · split
        · exact .unfinished _ _ rfl []
        · exact .unfinished _ _ rfl []
      · next outcome unread =>
          exact .unfinished _ outcome (Call.Outcome.not_isCounted_of_ofChecked _ outcome unread) []

theorem perform_call (call : Call) : ((e.perform client call).run start).1.call = call := by
  cases call with
  | exportTree tree data options =>
      rw [perform]
      split <;> rfl
  | exportPages pages data options =>
      rw [perform]
      split <;> rfl
  | validate tree data =>
      rw [perform]
      split
      · split <;> rfl
      · rfl

end Clients

end Exporter

/-! ### The counters of one call -/

namespace Performed

/-- Whether the call returned a document, and was counted under this name. -/
def returned (kind : String) (p : Performed) : Bool :=
  match p.outcome with
  | .exported _ => p.call.kind? == some kind
  | _ => false

/-- Whether the call was refused for errors, and was counted under this name. -/
def refused (kind : String) (p : Performed) : Bool :=
  match p.outcome with
  | .hasErrors _ => p.call.kind? == some kind
  | _ => false

/-- What was found by a call that returned a document or was refused for errors. -/
def findings (p : Performed) : List Finding :=
  match p.outcome with
  | .exported result => result.findings
  | .hasErrors findings => findings
  | _ => []

def widgetCount (p : Performed) : Nat :=
  match p.outcome with
  | .exported result => result.widgetCount
  | _ => 0

end Performed

namespace Finding

/-- The counter of such findings. -/
def sample (finding : Finding) : Metrics.Sample := .diagnostics finding.code finding.severity.name

end Finding

open Metrics

theorem of_growth_findings (findings : List Finding) (sample : Sample) :
    (growth (findings.map Finding.event)).of sample = findings.countP fun finding => finding.sample = sample := by
  induction findings with
  | nil => rfl
  | cons finding rest ih =>
      rw [List.map_cons, of_growth_cons, ih, Finding.event, of_diagnostic, List.countP_cons, ← Finding.sample]
      simp only [decide_eq_true_eq]
      split <;> omega

theorem of_growth_ended (images : List Bool) (findings : List Finding) (kind status : String)
    (duration : Number) (widgets : Nat) (sample : Sample) (counts : sample.countsExports = true) :
    (growth (images.map .asset ++ findings.map Finding.event ++
        [.finishedExport kind status duration widgets])).of sample =
      (findings.countP fun finding => finding.sample = sample) +
        ((if Sample.exports kind status = sample then 1 else 0) +
          if Sample.widgets = sample then (widgets : Int) else 0) := by
  rw [of_growth_append, of_growth_append, of_growth_images images sample counts, of_growth_findings,
    of_growth_single, of_finishedExport kind status duration widgets sample counts, Int.zero_add]

namespace Performed

/-- How many ends of exports the call adds to a counter. -/
def ended (sample : Sample) (p : Performed) : Nat :=
  match p.call.kind?, p.outcome with
  | some kind, .exported _ => if Sample.exports kind "success" = sample then 1 else 0
  | some kind, .hasErrors _ => if Sample.exports kind "failed" = sample then 1 else 0
  | _, _ => 0

/-- What the call adds to a counter of exports. -/
def amount (sample : Sample) (p : Performed) : Nat :=
  (p.findings.countP fun finding => finding.sample = sample) + p.ended sample +
    if Sample.widgets = sample then p.widgetCount else 0

theorem Accounted.of_growth (p : Performed) (accounted : p.Accounted) (sample : Sample)
    (counts : sample.countsExports = true) : (growth p.events).of sample = p.amount sample := by
  cases accounted with
  | returned call kind counted images duration result =>
      rw [of_growth_ended images result.findings kind "success" duration result.widgetCount sample counts]
      simp only [amount, ended, counted, findings, widgetCount]
      split <;> split <;> omega
  | refused call kind counted images duration findings =>
      have nothing := of_growth_ended images findings kind "failed" duration 0 sample counts
      refine nothing.trans ?_
      simp only [amount, ended, counted, Performed.findings, widgetCount]
      split <;> split <;> omega
  | unfinished call outcome uncounted images =>
      rw [of_growth_images images sample counts]
      cases outcome with
      | exported result => cases uncounted
      | hasErrors findings => cases uncounted
      | _ => simp [amount, ended, findings, widgetCount]

theorem Accounted.not_isCounted (p : Performed) (accounted : p.Accounted)
    (quiet : p.call.kind? = none ∨ p.outcome.isCounted = false) : p.outcome.isCounted = false := by
  rcases quiet with unnamed | uncounted
  · cases accounted with
    | returned call kind counted images duration result =>
        rw [unnamed] at counted
        cases counted
    | refused call kind counted images duration findings =>
        rw [unnamed] at counted
        cases counted
    | unfinished call outcome uncounted images => exact uncounted
  · exact uncounted

theorem countP_exports (findings : List Finding) (kind status : String) :
    (findings.countP fun finding => finding.sample = Sample.exports kind status) = 0 := by
  simp [Finding.sample]

theorem amount_success (kind : String) (p : Performed) :
    p.amount (.exports kind "success") = (p.returned kind).toNat := by
  rw [amount, countP_exports, if_neg (Sample.widgets_ne_exports kind "success"), ended, returned]
  cases p.call.kind? with
  | none => cases p.outcome <;> simp
  | some other =>
      by_cases same : other = kind
      · cases p.outcome <;> simp [same]
      · cases p.outcome <;> simp [same, beq_false_of_ne same]

theorem amount_failed (kind : String) (p : Performed) :
    p.amount (.exports kind "failed") = (p.refused kind).toNat := by
  rw [amount, countP_exports, if_neg (Sample.widgets_ne_exports kind "failed"), ended, refused]
  cases p.call.kind? with
  | none => cases p.outcome <;> simp
  | some other =>
      by_cases same : other = kind
      · cases p.outcome <;> simp [same]
      · cases p.outcome <;> simp [same, beq_false_of_ne same]

theorem amount_widgets (p : Performed) : p.amount .widgets = p.widgetCount := by
  have apart : (p.findings.countP fun finding => finding.sample = Sample.widgets) = 0 := by
    simp [Finding.sample]
  rw [amount, apart, if_pos rfl, ended]
  cases p.call.kind? <;> cases p.outcome <;> simp

theorem amount_diagnostics (code level : String) (p : Performed) :
    p.amount (.diagnostics code level) =
      p.findings.countP fun finding => finding.code == code && finding.severity.name == level := by
  have ends : p.ended (.diagnostics code level) = 0 := by
    rw [ended]
    cases p.call.kind? <;> cases p.outcome <;> simp
  rw [amount, ends, if_neg (Sample.widgets_ne_diagnostics code level)]
  apply List.countP_congr
  intro finding _
  simp [Finding.sample]

end Performed

/-! ### The counters of a session -/

theorem sum_toNat {α : Type} (p : α → Bool) (xs : List α) : (xs.map fun x => (p x).toNat).sum = xs.countP p := by
  induction xs with
  | nil => rfl
  | cons x rest ih =>
      rw [List.map_cons, List.sum_cons, ih, List.countP_cons, Nat.add_comm]
      cases p x <;> rfl

namespace Exporter

variable {σ : Type} (e : Exporter) (client : Asset.ClientIn (StateM σ)) (start : σ) (turns : List Turn)

theorem session_accounted (timeless : ∀ turn ∈ turns, turn.call.IsTimeless) :
    ∀ p ∈ ((e.session client turns).run start).1, p.Accounted := by
  intro p member
  obtain ⟨turn, listed, before, rfl⟩ := mem_run_mapM start _ turns p member
  exact perform_accounted _ client before turn.call (timeless turn listed)

theorem session_calls :
    ((e.session client turns).run start).1.map Performed.call = turns.map Turn.call := by
  induction turns generalizing start with
  | nil => rfl
  | cons turn rest ih =>
      have first := perform_call { e with now := turn.now, duration := turn.duration } client start turn.call
      have others := ih
        (({ e with now := turn.now, duration := turn.duration }.perform client turn.call).run start).2
      rw [session, List.mapM_cons]
      exact congrArg₂ List.cons first others

/-- Over any session the counters of exports are the sums of what its calls came to, whatever the client did. -/
theorem session_counters (timeless : ∀ turn ∈ turns, turn.call.IsTimeless) :
    let done := ((e.session client turns).run start).1
    let grown := (growth (done.flatMap Performed.events)).of
    done.map Performed.call = turns.map Turn.call ∧
      (∀ kind, grown (.exports kind "success") = done.countP (Performed.returned kind)) ∧
      (∀ kind, grown (.exports kind "failed") = done.countP (Performed.refused kind)) ∧
      grown .widgets = ((done.map Performed.widgetCount).sum : Nat) ∧
      (∀ code level, grown (.diagnostics code level) = (done.flatMap Performed.findings).countP fun finding =>
        finding.code == code && finding.severity.name == level) ∧
      ∀ p ∈ done, (p.call.kind? = none ∨ p.outcome.isCounted = false) →
        ∀ sample : Sample, sample.countsExports = true → (growth p.events).of sample = 0 := by
  intro done grown
  have accounted := e.session_accounted client start turns timeless
  have total : ∀ sample : Sample, sample.countsExports = true →
      grown sample = ((done.map (Performed.amount sample)).sum : Nat) := fun sample counts =>
    of_growth_flatMap Performed.events (Performed.amount sample) done sample fun p member =>
      (accounted p member).of_growth p sample counts
  refine ⟨e.session_calls client start turns, ?_, ?_, ?_, ?_, ?_⟩
  · intro kind
    have each : done.map (Performed.amount (.exports kind "success")) =
        done.map fun p => (p.returned kind).toNat :=
      List.map_congr_left fun p _ => p.amount_success kind
    rw [total _ rfl, each, sum_toNat]
  · intro kind
    have each : done.map (Performed.amount (.exports kind "failed")) =
        done.map fun p => (p.refused kind).toNat :=
      List.map_congr_left fun p _ => p.amount_failed kind
    rw [total _ rfl, each, sum_toNat]
  · have each : done.map (Performed.amount .widgets) = done.map Performed.widgetCount :=
      List.map_congr_left fun p _ => p.amount_widgets
    rw [total _ rfl, each]
  · intro code level
    have each := List.map_congr_left (l := done) fun p _ => p.amount_diagnostics code level
    rw [total _ rfl, each, List.countP_flatMap]
    rfl
  · intro p member quiet sample counts
    have uncounted : p.outcome.isCounted = false := (accounted p member).not_isCounted p quiet
    cases accounted p member with
    | returned call kind counted images duration result => cases uncounted
    | refused call kind counted images duration findings => cases uncounted
    | unfinished call outcome _ images => exact of_growth_images images sample counts

/-- A document, a refusal, pages, a validation, and options that cannot be read. -/
theorem session_counters_mixed :
    let widget (child : String) : Value :=
      .object [("type", .text "Text"), ("children", .list [.text child])]
    let fine : Value := .object [("a", widget "b")]
    let rootless : Value := .object [("a", widget "b"), ("b", widget "a")]
    let strict : Value := .object [("strict", .bool true)]
    let page : Value := .object [("id", .text "p"), ("canvasState", fine)]
    let turns : List Turn := [.exportTree fine .null .null, .exportTree rootless .null strict,
      .exportPages (.list [page]) .null .null, .validate fine .null,
      .exportTree fine .null (.text "strict")].map fun call => ⟨call, default, .int 0⟩
    let grown := (growth (((offline.session counting turns).run 0).1.flatMap Performed.events)).of
    grown (.exports "single" "success") = 1 ∧ grown (.exports "single" "failed") = 1 ∧
      grown (.exports "pages" "success") = 1 ∧ grown .widgets = 2 ∧
      grown (.diagnostics "CHILDREN_IGNORED" "warning") = 2 ∧ grown (.diagnostics "NO_ROOTS" "error") = 1 := by
  intro widget fine rootless strict page turns grown
  have timeless : ∀ turn ∈ turns, turn.call.IsTimeless := by decide
  obtain ⟨_, returned, refused, widgets, found, _⟩ := offline.session_counters counting 0 turns timeless
  refine ⟨(returned "single").trans ?_, (refused "single").trans ?_, (returned "pages").trans ?_,
    widgets.trans ?_, (found "CHILDREN_IGNORED" "warning").trans ?_, (found "NO_ROOTS" "error").trans ?_⟩
  all_goals decide +kernel

end Exporter

end ReportCompiler
