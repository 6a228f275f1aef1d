import Mathlib.Data.List.Nodup
import Mathlib.Logic.Basic
import ReportCompiler.Export.Basic
import ReportCompiler.Proofs.Asset.Inlining
import ReportCompiler.Proofs.Metrics.Growth

/-!
What becomes of the addresses that are asked for. Batches give every address what it would be given on its
own, and the report on a template accounts for every request, unless the client fails without a word.
-/

namespace ReportCompiler

namespace Asset

/-! ### Batches -/

theorem Outcome.url_of_failure (url : String) (image : Except Failure String) (failure : Failure)
    (failed : (Outcome.ofImage url image).failure = some failure) :
    (Outcome.ofImage url image).url = url := by
  cases image with
  | ok image => cases failed
  | error reason => rfl

-- A client that fails leaves the address as it is, whether its failure is passed on or kept.
theorem url_outcome (client : Client) (convert : Bool) (url : String) :
    (outcome client convert url).run.url =
      match processOne client convert url with
      | .ok image => image
      | .error _ => url := by
  unfold processOne
  by_cases requested : isRequested convert url = true
  · have asked : (outcome client convert url).run = .ofImage url (embed client url).run := by
      simp only [outcome, requested, if_true]
      rfl
    simp only [asked]
    cases failed : (Outcome.ofImage url (embed client url).run).failure with
    | none => rfl
    | some failure =>
        cases failure with
        | notFetched _ _ _ => rfl
        | broken message => exact Outcome.url_of_failure _ _ _ failed
  · simp only [outcome, requested]
    rfl

/-- However many addresses are fetched at once, each one becomes what it becomes on its own, and stays as it
is where that fails. -/
theorem processAll_eq_processOne (client : Client) (convert : Bool) (usual : Int) (wanted : Option Int)
    (urls : List String) :
    (processAll client convert (batchSize usual wanted) urls).run.map Outcome.url =
      urls.map fun url =>
        match processOne client convert url with
        | .ok image => image
        | .error _ => url := by
  rw [processAll_eq_mapM client convert _ (batchSize_pos usual wanted) urls, List.idRun_mapM,
    List.map_map]
  apply List.map_congr_left
  intro url _
  exact url_outcome client convert url

/-! ### What a client is asked -/

section Recording

variable {m : Type → Type} [Monad m]

/-- The client, with a list of what it was asked and how it replied. -/
def recorded (client : ClientIn m) : ClientIn (StateT (List (String × Reply)) m) := fun url => do
  let reply ← client url
  modify (· ++ [(url, reply)])
  return reply

variable [LawfulMonad m]

theorem mapM_recorded (client : ClientIn m) (urls : List String) (before : List (String × Reply)) :
    (urls.mapM (recorded client)).run before = do
      let replies ← urls.mapM client
      return (replies, before ++ urls.zip replies) := by
  induction urls generalizing before with
  | nil => simp
  | cons url rest ih => simp [List.mapM_cons, recorded, ih]

theorem inlineTree_eq (client : ClientIn m) (usual : Int) (wanted : Option Int) (tree : Tree) :
    inlineTree client (batchSize usual wanted) tree = do
      let replies ← (externalImages tree).mapM client
      let report := Report.ofOutcomes (externalImages tree)
        (((externalImages tree).zip replies).map answered)
      return (replaceInTree report.images tree, report) := by
  have external : ∀ url ∈ externalImages tree, isExternal url = true := by
    intro url listed
    exact (isExternal_iff url).mpr ((mem_externalImages_iff tree url).mp listed).1
  rw [inlineTree, processAll_eq_mapM client true _ (batchSize_pos usual wanted),
    mapM_outcome client _ external]
  simp only [bind_assoc, pure_bind]

-- Keeping track of the requests changes nothing about what comes of them.
theorem inlineTree_recorded (client : ClientIn m) (usual : Int) (wanted : Option Int) (tree : Tree) :
    (inlineTree (recorded client) (batchSize usual wanted) tree).run [] = do
      let replies ← (externalImages tree).mapM client
      let asked := (externalImages tree).zip replies
      let report := Report.ofOutcomes (externalImages tree) (asked.map answered)
      return ((replaceInTree report.images tree, report), asked) := by
  rw [inlineTree_eq, StateT.run_bind, mapM_recorded]
  simp

end Recording

theorem length_run_mapM {σ α β : Type} (f : α → StateM σ β) (xs : List α) (start : σ) :
    ((xs.mapM f).run start).1.length = xs.length := by
  induction xs generalizing start with
  | nil => rfl
  | cons x rest ih =>
      rw [List.mapM_cons]
      exact congrArg Nat.succ (ih _)

/-! ### How a reply counts -/

theorem ofReply_eq_broken_iff (url message : String) (reply : Reply) :
    ofReply url reply = .error (.broken message) ↔ reply = .broken message := by
  constructor
  · intro failed
    cases reply with
    | response response =>
        rw [ofReply, ofResponse] at failed
        split at failed
        · cases failed
        · simp only at failed
          split at failed <;> cases failed
    | unreachable reason => cases failed
    | broken reason =>
        cases failed
        rfl
  · rintro rfl
    rfl

theorem Failure.message_ne_empty (url reason : String) (status : Option Int) :
    (Failure.notFetched url reason status).message ≠ "" := by
  intro empty
  have chars := congrArg String.toList empty
  rw [Failure.message, String.toList_append] at chars
  cases chars

/-- What there is to say about a request that failed, if it failed with anything to say. -/
def complaintOf (asked : String × Reply) : Option String := Report.complaint? (answered asked)

theorem complaintOf_of_image (asked : String × Reply) (image : String)
    (fetched : ofReply asked.1 asked.2 = .ok image) : complaintOf asked = none := by
  rw [complaintOf, answered, fetched]
  rfl

theorem complaintOf_of_failure (asked : String × Reply) (failure : Failure)
    (failed : ofReply asked.1 asked.2 = .error failure) :
    complaintOf asked = if failure.message == "" then none else some failure.message := by
  rw [complaintOf, answered, failed]
  rfl

theorem complaintOf_of_silent (asked : String × Reply) (silent : asked.2 = .broken "") :
    complaintOf asked = none :=
  complaintOf_of_failure asked (.broken "") (by rw [silent]; rfl)

theorem isReplaced_of_image (asked : String × Reply) (web : IsWeb asked.1) (image : String)
    (fetched : ofReply asked.1 asked.2 = .ok image) : isReplaced asked = true := by
  have outside := not_isData_of_isWeb web
  have inside := isData_of_ofReply _ _ _ fetched
  have other : image ≠ asked.1 := by
    intro same
    rw [same, outside] at inside
    cases inside
  have complaint := complaintOf_of_image asked image fetched
  rw [complaintOf] at complaint
  rw [isReplaced, complaint, answered, fetched]
  exact bne_iff_ne.mpr other

theorem not_isReplaced_of_failure (asked : String × Reply) (failure : Failure)
    (failed : ofReply asked.1 asked.2 = .error failure) : isReplaced asked = false := by
  have kept : (answered asked).url = asked.1 := by
    rw [answered, failed]
    rfl
  rw [isReplaced, kept, bne_self_eq_false, Bool.and_false]

-- Three ends of a request: an image, a failure with something to say, and a client that fails in silence.
theorem complaintOf_eq_none_iff (asked : String × Reply) (web : IsWeb asked.1) :
    complaintOf asked = none ↔ isReplaced asked = true ∨ asked.2 = .broken "" := by
  cases replied : ofReply asked.1 asked.2 with
  | ok image =>
      have replaced := isReplaced_of_image asked web image replied
      exact iff_of_true (complaintOf_of_image asked image replied) (.inl replaced)
  | error failure =>
      rw [complaintOf_of_failure asked failure replied, not_isReplaced_of_failure asked failure replied]
      cases failure with
      | notFetched url reason status =>
          have said : ((Failure.notFetched url reason status).message == "") = false :=
            beq_false_of_ne (Failure.message_ne_empty url reason status)
          have heard : asked.2 ≠ .broken "" := by
            intro silent
            rw [silent] at replied
            cases replied
          simp [said, heard]
      | broken message =>
          rw [(ofReply_eq_broken_iff _ _ _).mp replied]
          by_cases empty : message = "" <;> simp [Failure.message, empty]

theorem not_isReplaced_of_silent (asked : String × Reply) (silent : asked.2 = .broken "") :
    isReplaced asked = false :=
  not_isReplaced_of_failure asked (.broken "") (by rw [silent]; rfl)

/-! ### The report -/

/-- The failures that are listed. -/
def failuresIn (asked : List (String × Reply)) : List (String × String) :=
  asked.filterMap fun one => (complaintOf one).map fun complaint => (one.1, complaint)

theorem ofOutcomes_map (asked : List (String × Reply)) :
    Report.ofOutcomes (asked.map Prod.fst) (asked.map answered) =
      { images := imagesIn asked
        errors := failuresIn asked
        requested := asked.map Prod.fst
        successes := asked.map fun one => (complaintOf one).isNone } := by
  rw [Report.ofOutcomes, List.zip_map', List.filter_map, List.filterMap_map, List.map_map, List.map_map]
  rfl

theorem map_fst_imagesIn (asked : List (String × Reply)) :
    (imagesIn asked).map Prod.fst = (asked.filter isReplaced).map Prod.fst := by
  rw [imagesIn, List.map_map]
  rfl

theorem map_fst_failuresIn (asked : List (String × Reply)) :
    (failuresIn asked).map Prod.fst =
      (asked.filter fun one => (complaintOf one).isSome).map Prod.fst := by
  induction asked with
  | nil => rfl
  | cons one rest ih =>
      rw [failuresIn] at ih ⊢
      cases complaint : complaintOf one with
      | none =>
          rw [List.filterMap_cons, List.filter_cons_of_neg (by simp [complaint]), complaint]
          exact ih
      | some said =>
          rw [List.filterMap_cons, List.filter_cons_of_pos (by simp [complaint]), complaint]
          exact congrArg (List.cons one.1) ih

theorem length_failuresIn (asked : List (String × Reply)) :
    (failuresIn asked).length = asked.countP fun one => (complaintOf one).isSome := by
  have keys := congrArg List.length (map_fst_failuresIn asked)
  rw [List.length_map, List.length_map] at keys
  rw [keys, List.countP_eq_length_filter]

theorem length_imagesIn (asked : List (String × Reply)) :
    (imagesIn asked).length = asked.countP isReplaced := by
  rw [imagesIn, List.length_map, List.countP_eq_length_filter]

theorem nodup_map_fst_filter (asked : List (String × Reply)) (keep : String × Reply → Bool)
    (distinct : (asked.map Prod.fst).Nodup) : ((asked.filter keep).map Prod.fst).Nodup :=
  (List.filter_sublist.map Prod.fst).nodup distinct

-- No two requests are for one address, so an address stands for its request.
theorem mem_map_fst_filter_iff (asked : List (String × Reply)) (keep : String × Reply → Bool)
    (distinct : (asked.map Prod.fst).Nodup) (one : String × Reply) (member : one ∈ asked) :
    one.1 ∈ (asked.filter keep).map Prod.fst ↔ keep one = true := by
  constructor
  · intro listed
    obtain ⟨other, kept, same⟩ := List.mem_map.mp listed
    obtain ⟨present, keeps⟩ := List.mem_filter.mp kept
    rw [List.inj_on_of_nodup_map distinct present member same] at keeps
    exact keeps
  · intro keeps
    exact List.mem_map_of_mem (List.mem_filter.mpr ⟨member, keeps⟩)

/-! ### Counts -/

/-- The requests that are counted with this status. -/
def requestsEnded (status : String) : Metrics.Sample :=
  { name := "reportbuilder_assets_inlined_total", labels := [("status", status)] }

theorem of_growth_assets (successes : List Bool) (success : Bool) :
    (Metrics.growth (successes.map .asset)).of
        (requestsEnded (if success then "success" else "failed")) = successes.count success := by
  have apart : requestsEnded "success" ≠ requestsEnded "failed" := by decide
  induction successes with
  | nil => rfl
  | cons first rest ih =>
      rw [List.map_cons, Metrics.of_growth_cons, ih, Metrics.Event.growth, Metrics.Growth.of_cons,
        Metrics.Growth.of_nil, List.count_cons]
      cases first <;> cases success <;> simp [requestsEnded] <;> omega

theorem count_successes_true (asked : List (String × Reply)) :
    (asked.map fun one => (complaintOf one).isNone).count true =
      asked.countP fun one => (complaintOf one).isNone := by
  rw [List.count, List.countP_map]
  apply List.countP_congr
  intro one _
  simp

theorem count_successes_false (asked : List (String × Reply)) :
    (asked.map fun one => (complaintOf one).isNone).count false =
      asked.countP fun one => (complaintOf one).isSome := by
  rw [List.count, List.countP_map]
  apply List.countP_congr
  intro one _
  cases complaint : complaintOf one <;> simp [complaint]

/-- The report says of every requested address either what replaces it or why nothing does, and the requests
are counted as successes and failures accordingly. -/
structure Report.Accounts (report : Report) (requested : List String) : Prop where
  replaced_or_failed : ∀ url ∈ requested,
    Xor (url ∈ report.images.map Prod.fst) (url ∈ report.errors.map Prod.fst)
  replaced_once : (report.images.map Prod.fst).Nodup
  failed_once : (report.errors.map Prod.fst).Nodup
  successes_counted : (Metrics.growth (Exporter.assetEvents report)).of (requestsEnded "success") =
    report.images.length
  failures_counted : (Metrics.growth (Exporter.assetEvents report)).of (requestsEnded "failed") =
    report.errors.length

theorem accounts_iff (asked : List (String × Reply)) (web : ∀ one ∈ asked, IsWeb one.1)
    (distinct : (asked.map Prod.fst).Nodup) :
    (Report.ofOutcomes (asked.map Prod.fst) (asked.map answered)).Accounts (asked.map Prod.fst) ↔
      ∀ one ∈ asked, one.2 ≠ .broken "" := by
  rw [ofOutcomes_map]
  constructor
  · intro accounts one member silent
    have either := accounts.replaced_or_failed one.1 (List.mem_map_of_mem member)
    simp only [map_fst_imagesIn, map_fst_failuresIn] at either
    rw [mem_map_fst_filter_iff asked _ distinct one member,
      mem_map_fst_filter_iff asked _ distinct one member,
      not_isReplaced_of_silent one silent, complaintOf_of_silent one silent] at either
    simp at either
  · intro heard
    have silent_iff : ∀ one ∈ asked, ((complaintOf one).isNone = true ↔ isReplaced one = true) := by
      intro one member
      rw [Option.isNone_iff_eq_none, complaintOf_eq_none_iff one (web one member)]
      exact or_iff_left (heard one member)
    constructor
    · intro url listed
      obtain ⟨one, member, rfl⟩ := List.mem_map.mp listed
      have either := silent_iff one member
      simp only [map_fst_imagesIn, map_fst_failuresIn]
      rw [mem_map_fst_filter_iff asked _ distinct one member,
        mem_map_fst_filter_iff asked _ distinct one member, ← either]
      cases complaintOf one <;> simp
    · simp only [map_fst_imagesIn]
      exact nodup_map_fst_filter asked _ distinct
    · simp only [map_fst_failuresIn]
      exact nodup_map_fst_filter asked _ distinct
    · rw [length_imagesIn, ← List.countP_congr silent_iff, ← count_successes_true]
      exact of_growth_assets _ true
    · rw [length_failuresIn, ← count_successes_false]
      exact of_growth_assets _ false

/-- Every address of the web in a setting for images is asked for once. The report then accounts for all that
was asked, with whatever replies, exactly when no client failed without a message. -/
theorem inlineTree_accounts_iff {σ : Type} (client : ClientIn (StateM σ)) (usual : Int) (wanted : Option Int)
    (tree : Tree) (start : σ) :
    let run := ((inlineTree (recorded client) (batchSize usual wanted) tree).run []).run start
    let report := run.1.1.2
    let asked := run.1.2
    (inlineTree client (batchSize usual wanted) tree).run start = (run.1.1, run.2) ∧
      asked.map Prod.fst = externalImages tree ∧
      (report.Accounts (externalImages tree) ↔ ∀ one ∈ asked, one.2 ≠ .broken "") := by
  intro run report asked
  let urls := externalImages tree
  let answers := (urls.mapM client).run start
  have paired : asked = urls.zip answers.1 :=
    congrArg (fun result => (result.run start).1.2) (inlineTree_recorded client usual wanted tree)
  have reported : report = Report.ofOutcomes urls (asked.map answered) := by
    rw [paired]
    exact congrArg (fun result => (result.run start).1.1.2) (inlineTree_recorded client usual wanted tree)
  have all : asked.map Prod.fst = urls := by
    rw [paired]
    exact List.map_fst_zip (Nat.le_of_eq (length_run_mapM client urls start).symm)
  have web : ∀ one ∈ asked, IsWeb one.1 := by
    intro one member
    have listed : one.1 ∈ urls := all ▸ List.mem_map_of_mem member
    exact ((mem_externalImages_iff tree one.1).mp listed).1
  have distinct : (asked.map Prod.fst).Nodup := by
    rw [all]
    exact nodup_externalImages tree
  refine ⟨?_, all, ?_⟩
  · have plain := congrArg (fun result => result.run start) (inlineTree_eq client usual wanted tree)
    have kept := congrArg (fun result => ((result.run start).1.1, (result.run start).2))
      (inlineTree_recorded client usual wanted tree)
    exact plain.trans kept.symm
  · rw [reported]
    show (Report.ofOutcomes urls _).Accounts urls ↔ _
    rw [← all]
    exact accounts_iff asked web distinct

/-- A client that fails without a message leaves no trace: its address is neither replaced nor listed as a
failure, and the request counts as a success. -/
theorem inlineTree_loses_failure :
    let image : Node :=
      { id := "i", type := "Image", props := [("src", .text "http://b")], children := [], custom := [] }
    let tree : Tree := { nodes := [("i", image)], rootId := none }
    let silent : ClientIn (StateM Unit) := fun _ => return .broken ""
    let run := ((inlineTree (recorded silent) (batchSize 5 none) tree).run []).run ()
    run.1.2 = [("http://b", .broken "")] ∧ run.1.1.2.images = [] ∧ run.1.1.2.errors = [] ∧
      run.1.1.2.successes = [true] ∧ ¬ run.1.1.2.Accounts (externalImages tree) := by
  intro image tree silent run
  have urls : externalImages tree = ["http://b"] := by decide +kernel
  have whole := congrArg (fun result => result.run ()) (inlineTree_recorded silent 5 none tree)
  rw [urls] at whole
  have images : run.1.1.2.images = [] := by
    unfold run
    rw [whole]
    rfl
  have errors : run.1.1.2.errors = [] := by
    unfold run
    rw [whole]
    rfl
  refine ⟨?_, images, errors, ?_, ?_⟩
  · unfold run
    rw [whole]
    rfl
  · unfold run
    rw [whole]
    rfl
  · intro accounts
    have either := accounts.replaced_or_failed "http://b" (by rw [urls]; exact List.mem_singleton_self _)
    rw [images, errors] at either
    simp at either

end Asset

end ReportCompiler
