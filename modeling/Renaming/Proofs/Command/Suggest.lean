import Renaming.Command.Run
import Renaming.Proofs.Model.File
import Renaming.Proofs.Server.Client
import Renaming.Proofs.Session.Order

/-!
# Suggesting names for a file

The requests of a command finish in any order. What is left on the disk is the same in every order.
-/

namespace Renaming

/-! ## Live targets -/

namespace Assembly

theorem exists_requests {a : Assembly} {es : List Entity}
    (h : ∀ e ∈ es, (a.name? e).isSome = true) :
    ∃ rs, es.mapM a.request = .ok rs ∧ List.Forall₂ (fun e r => a.request e = .ok r) es rs := by
  induction es with
  | nil => exact ⟨[], rfl, .nil⟩
  | cons e es ih =>
    obtain ⟨he, hes⟩ := List.forall_mem_cons.mp h
    obtain ⟨r, hr⟩ := exists_request he
    obtain ⟨rs, hrs, heach⟩ := ih hes
    refine ⟨r :: rs, ?_, .cons hr heach⟩
    rw [List.mapM_cons, hr, hrs]
    rfl

end Assembly

namespace Command

theorem mem_targets {a : Assembly} {kind : Kind} {name : Option String} {e : Entity}
    (h : e ∈ targets a kind name) : e.kind = kind ∧ (a.name? e).isSome = true :=
  (a.mem_entities kind e).mp (List.mem_of_mem_filter h)

theorem nodup_targets (a : Assembly) (kind : Kind) (name : Option String) :
    (targets a kind name).Nodup :=
  (a.nodup_entities kind).filter _

/-! ## What a session leaves -/

section

variable {σ : Type} (s : Settings) (file : String) (consent : Consent) (a : Assembly)
  (terminal : Terminal String)

/-- The errors of a command that wrote its file with this result. -/
def written : Except FileError Unit → List String
  | .ok () => []
  | .error e => saveErrors file e

/-- Both ways to report the writing leave the disk that the writing left. -/
theorem run_reported (result : Except FileError Unit × Disk) (w : World σ) :
    let x := (match result.1 with
      | .ok () => (pure (.ofText (line ("Saved " ++ file))) : StateM (World σ) Printout)
      | .error e => pure (.ofErrors (saveErrors file e))).run { w with disk := result.2 }
    x.2.disk = result.2 ∧ x.1.errors = written file result.1 := by
  obtain ⟨result, disk⟩ := result
  cases result with
  | ok => exact ⟨rfl, rfl⟩
  | error e => exact ⟨rfl, rfl⟩

/-- Only the writing of a model that is to be saved changes the disk, and only it can fail. -/
theorem run_saveChanges (r : Report) (w : World σ) :
    let x := (saveChanges s file consent a r).run w
    let saved := (a.save file s.backup).run w.disk
    (x.2.disk = if r.hasChanges && (s.autoSave || consent.save) then saved.2 else w.disk) ∧
      x.1.errors =
        if r.hasChanges && (s.autoSave || consent.save) then written file saved.1 else [] := by
  unfold saveChanges
  cases r.hasChanges with
  | false => exact ⟨rfl, rfl⟩
  | true =>
    cases hsave : s.autoSave || consent.save with
    | false => exact ⟨rfl, rfl⟩
    | true => exact run_reported file ((a.save file s.backup).run w.disk) w

/-- The session of a command. -/
def session (events : List Event) : Session.Result × String :=
  (Session.run (.console consent.yes terminal) a events.length events).run ""

theorem disk_review (events : StateM σ (Warned (List Event))) (w : World σ) :
    let result := (session consent a terminal (events.run w.network).1.value).1
    ((review s file consent a events terminal).run w).2.disk =
      if result.report.hasChanges && (s.autoSave || consent.save) then
        ((result.model.save file s.backup).run w.disk).2
      else w.disk :=
  (run_saveChanges s file consent _ _ _).1

theorem errors_review (events : StateM σ (Warned (List Event))) (w : World σ) :
    let result := (session consent a terminal (events.run w.network).1.value).1
    ((review s file consent a events terminal).run w).1.errors =
      if result.report.hasChanges && (s.autoSave || consent.save) then
        written file ((result.model.save file s.backup).run w.disk).1
      else [] :=
  (run_saveChanges s file consent _ _ _).2

end

theorem console_decides (yes : Bool) (plan : RenamePlan) (printed : String) :
    (((Reviewer.console yes).review plan).run printed).1.value =
      if yes then .accept plan.newName else .reject := by
  cases yes <;> rfl

/-! ## Orders of completion -/

theorem hasChanges_congr {r r' : Report} (h : r.Reordered r') : r.hasChanges = r'.hasChanges :=
  congrArg (!·) h.applied.isEmpty_eq

/-- Sessions over the same plans in different orders leave the same disk. -/
theorem disk_review_reordered {σ : Type} (s : Settings) (file : String) (consent : Consent)
    {a : Assembly} {kind : Kind} {es : List Entity}
    {results : List (Except OracleError RenamePlan)} (h : Session.Planned a kind es results)
    {finished finished' : StateM σ (Warned (List Event))} {w : World σ}
    (hfinished : (finished.run w.network).1.value.Perm (results.map .planned))
    (hfinished' : (finished'.run w.network).1.value.Perm (results.map .planned)) :
    ((review s file consent a finished).run w).2.disk =
      ((review s file consent a finished').run w).2.disk := by
  have hlength : (finished'.run w.network).1.value.length =
      (finished.run w.network).1.value.length := (hfinished'.trans hfinished.symm).length_eq
  have hawaited : results.length ≤ (finished.run w.network).1.value.length := by
    simp [hfinished.length_eq]
  obtain ⟨hmodel, hreport⟩ := Session.run_reordered h hfinished hfinished'
    (console_decides consent.yes) hawaited "" ""
  rw [disk_review, disk_review]
  unfold session
  rw [hlength, hmodel, hasChanges_congr hreport]

theorem forall₂_comp {α β γ : Type} {R : α → β → Prop} {S : β → γ → Prop} {xs : List α}
    {ys : List β} {zs : List γ} (h : List.Forall₂ R xs ys) (h' : List.Forall₂ S ys zs) :
    List.Forall₂ (fun x z => ∃ y, R x y ∧ S y z) xs zs := by
  induction h generalizing zs with
  | nil =>
    cases h'
    exact .nil
  | cons hxy _ ih =>
    cases h' with
    | cons hyz hrest => exact .cons ⟨_, hxy, hyz⟩ (ih hrest)

/-- The plans for all targets are plans for different entities of one kind. -/
theorem planned_targets {σ : Type} (oracle : Oracle σ) {a : Assembly} {kind : Kind}
    {name : Option String} {requests : List RenameRequest}
    (h : List.Forall₂ (fun e r => a.request e = .ok r) (targets a kind name) requests) (s : σ) :
    ∃ results, Session.Planned a kind (targets a kind name) results ∧
      ((planAll oracle requests).run s).1.value.Perm (results.map .planned) := by
  obtain ⟨results, hplanned, hperm⟩ := planAll_planned oracle requests s
  exact ⟨results, ⟨fun e he => (mem_targets he).1, nodup_targets a kind name,
    forall₂_comp h hplanned⟩, hperm⟩

theorem withModel_eq {σ : Type} (file : String) (work : Assembly → StateM (World σ) Printout)
    (w : World σ) :
    (withModel file work).run w =
      (match Assembly.load w.disk file with
        | .ok a => work a
        | .error e => pure (.ofErrors (loadErrors file e))).run w := rfl

theorem run_withModel {σ : Type} {file : String} {w : World σ} {a : Assembly}
    (work : Assembly → StateM (World σ) Printout) (h : Assembly.load w.disk file = .ok a) :
    (withModel file work).run w = (work a).run w := by
  rw [withModel_eq, h]

/-- What is left of a command is what is left of its session. Without targets nothing is done. -/
theorem disk_suggest {σ : Type} (transport : Http.Transport σ) (s : Settings) {file : String}
    {kind : Kind} {name : Option String} (consent : Consent) {w : World σ} {a : Assembly}
    {requests : List RenameRequest} (hload : Assembly.load w.disk file = .ok a)
    (hrequests : (targets a kind name).mapM a.request = .ok requests) :
    ((suggest transport s file kind name consent).run w).2.disk =
      ((review s file consent a (planAll (Server.oracle transport s) requests)).run w).2.disk := by
  unfold suggest
  rw [run_withModel _ hload]
  cases htargets : targets a kind name with
  | nil =>
    have hnone : requests = [] := by
      rw [htargets] at hrequests
      exact (Except.ok.inj hrequests).symm
    subst hnone
    rw [disk_review]
    rfl
  | cons e es =>
    rw [htargets] at hrequests
    simp only [List.isEmpty_cons, hrequests]
    rfl

/-- Plans for different entities of one kind, delivered in two orders to a session whose reviewer
decides about each plan by itself, give the same model, and the same report up to the order. So the
disk after a command does not depend on the order in which its requests finish. -/
theorem completion_order_is_irrelevant :
    (∀ (a : Assembly) (kind : Kind) (es : List Entity)
      (results : List (Except OracleError RenamePlan)), Session.Planned a kind es results →
      ∀ queue queue' : List Event, queue.Perm (results.map .planned) →
      queue'.Perm (results.map .planned) →
      ∀ {ρ : Type} (reviewer : Reviewer ρ) (decide : RenamePlan → Decision),
      (∀ plan state, ((reviewer.review plan).run state).1.value = decide plan) →
      ∀ awaited, results.length ≤ awaited → ∀ state state' : ρ,
      let x := ((Session.run reviewer a awaited queue).run state).1
      let x' := ((Session.run reviewer a awaited queue').run state').1
      x.model = x'.model ∧ x.report.Reordered x'.report) ∧
    (∀ {σ : Type} (transport : Http.Transport σ) (s : Settings) (file : String) (kind : Kind)
      (name : Option String) (consent : Consent) (w : World σ) (a : Assembly),
      Assembly.load w.disk file = .ok a →
      ∃ requests results, (targets a kind name).mapM a.request = .ok requests ∧
        Session.Planned a kind (targets a kind name) results ∧
        ((planAll (Server.oracle transport s) requests).run w.network).1.value.Perm
          (results.map .planned) ∧
        ∀ finished : StateM σ (Warned (List Event)),
          (finished.run w.network).1.value.Perm (results.map .planned) →
          ((review s file consent a finished).run w).2.disk =
            ((suggest transport s file kind name consent).run w).2.disk) := by
  constructor
  · intro a kind es results h queue queue' hqueue hqueue' ρ reviewer decide hdecide awaited hawaited
    exact Session.run_reordered h hqueue hqueue' hdecide hawaited
  · intro σ transport s file kind name consent w a hload
    have hlive : ∀ e ∈ targets a kind name, (a.name? e).isSome = true :=
      fun e he => (mem_targets he).2
    obtain ⟨requests, hrequests, heach⟩ := Assembly.exists_requests hlive
    obtain ⟨results, hplanned, hperm⟩ :=
      planned_targets (Server.oracle transport s) heach w.network
    refine ⟨requests, results, hrequests, hplanned, hperm, fun finished hfinished => ?_⟩
    rw [disk_suggest transport s consent hload hrequests]
    exact disk_review_reordered s file consent hplanned hfinished hperm

/-! ### Two methods -/

/-- A file with two methods, the first of them with a parameter. -/
def twoMethodsFile : String :=
  "\x7b\"name\":\"\",\"types\":[\x7b\"methods\":[" ++
    "\x7b\"name\":\"a\",\"parameters\":[\x7b\"name\":\"x\",\"paramType\":\"int\"\x7d]\x7d," ++
    "\x7b\"name\":\"b\"\x7d]\x7d]\x7d"

def twoMethods : Assembly :=
  ⟨"", [⟨"", "", none, [], [], [⟨"a", "", [⟨"x", "int"⟩], [], ""⟩, ⟨"b", "", [], [], ""⟩]⟩]⟩

/-- A plan for the first method and its parameter, and a failure for the second. -/
def twoResults : List (Except OracleError RenamePlan) :=
  [.ok ⟨.method 0 0, .method, "a", "scale", [⟨.method 0 0, .primary, .certain "a" "scale" .method⟩,
      ⟨.parameter 0 0 0, .parameter, .certain "x" "factor" .parameter⟩]⟩,
    .error .noSuggestion]

theorem planned_twoResults :
    Session.Planned twoMethods .method [.method 0 0, .method 0 1] twoResults where
  kind_eq := by decide
  nodup := by decide
  planned := by
    refine .cons ⟨_, rfl, ?_⟩ (.cons ⟨_, rfl, ?_⟩ .nil)
    · rw [RenameRequest.planned_iff]
      exact .inr ⟨"scale", [.ok "factor"], rfl, rfl⟩
    · rw [RenameRequest.planned_iff]
      exact .inl ⟨_, rfl⟩

/-- The server has a name for each method and then one for the parameter, which is asked for when
the second method has its plan already. -/
def answeringThrice : World Http.Transport.Script :=
  ⟨⟨[(["m"], .file twoMethodsFile.toUTF8)], [], 0, fun _ => none⟩,
    ⟨["scale", "total", "factor"].map fun name =>
      .reply 200 ("\x7b\"response\":\"" ++ name ++ "\"\x7d"), none⟩⟩

/-- What is left when these plans are reviewed and all is accepted and saved. -/
def leftByReview (finished : StateM Http.Transport.Script (Warned (List Event))) : Disk :=
  ((review Planning.localSettings "m" ⟨true, true⟩ twoMethods finished).run answeringThrice).2.disk

def leftBySuggest : Disk :=
  ((suggest .scripted Planning.localSettings "m" .method none ⟨true, true⟩).run
    answeringThrice).2.disk

def plansFor (requests : List RenameRequest) :
    StateM Http.Transport.Script (Warned (List Event)) :=
  planAll (Server.oracle .scripted Planning.localSettings) requests

/-- The plans in the opposite order. -/
def reversedPlansFor (requests : List RenameRequest) :
    StateM Http.Transport.Script (Warned (List Event)) :=
  (fun events => ⟨events.value.reverse, events.warnings⟩) <$> plansFor requests

/-- A session over these plans that accepts all of them. -/
def sessionFor (requests : List RenameRequest) : Session.Result :=
  (session ⟨true, true⟩ twoMethods .absent ((plansFor requests).run
    answeringThrice.network).1.value).1

/-- The names of the two methods and of the parameter. -/
def threeNames (a : Assembly) : List (Option String) :=
  [.method 0 0, .parameter 0 0 0, .method 0 1].map a.name?

/-- The session names everything, and its model can be saved. -/
theorem sessionFor_saves {requests : List RenameRequest}
    (h : (targets twoMethods .method none).mapM twoMethods.request = .ok requests) :
    let r := sessionFor requests
    threeNames r.model = [some "scale", some "factor", some "total"] ∧
      r.report.hasChanges = true ∧
      ((r.model.save "m" true).run answeringThrice.disk).1.toBool = true := by
  have hsession : (((targets twoMethods .method none).mapM twoMethods.request).toOption.map
      fun requests =>
        let r := sessionFor requests
        (threeNames r.model, r.report.hasChanges,
          ((r.model.save "m" true).run answeringThrice.disk).1.toBool)) =
      some ([some "scale", some "factor", some "total"], true, true) := by
    decide +kernel
  rw [h] at hsession
  simpa only [Except.toOption, Option.map_some, Option.some.injEq, Prod.mk.injEq] using hsession

theorem leftBySuggest_eq {requests : List RenameRequest}
    (hload : Assembly.load answeringThrice.disk "m" = .ok twoMethods)
    (h : (targets twoMethods .method none).mapM twoMethods.request = .ok requests) :
    leftBySuggest =
      if (sessionFor requests).report.hasChanges &&
          (Planning.localSettings.autoSave || true) then
        (((sessionFor requests).model.save "m" Planning.localSettings.backup).run
          answeringThrice.disk).2
      else answeringThrice.disk :=
  (disk_suggest .scripted _ ⟨true, true⟩ hload h).trans
    (disk_review _ "m" ⟨true, true⟩ twoMethods .absent (plansFor requests) answeringThrice)

theorem completion_order_of_two_methods :
    (let x := ((Session.run (.acceptAll : Reviewer Unit) twoMethods 2
        (twoResults.map .planned)).run ()).1
      let x' := ((Session.run (.acceptAll : Reviewer Unit) twoMethods 2
        (twoResults.map .planned).reverse).run ()).1
      x.model = x'.model ∧ x.report.Reordered x'.report) ∧
    ∃ requests a, (targets twoMethods .method none).mapM twoMethods.request = .ok requests ∧
      leftByReview (reversedPlansFor requests) = leftBySuggest ∧
      Assembly.load leftBySuggest "m" = .ok a ∧
      threeNames a = [some "scale", some "factor", some "total"] := by
  constructor
  · exact completion_order_is_irrelevant.1 twoMethods .method _ twoResults planned_twoResults _ _
      (.refl _) (List.reverse_perm _) .acceptAll (fun plan => .accept plan.newName)
      (fun _ _ => rfl) 2 (by decide) () ()
  · have hload : Assembly.load answeringThrice.disk "m" = .ok twoMethods := by decide +kernel
    have hread : answeringThrice.disk.read "m" = .ok twoMethodsFile.toUTF8 := rfl
    obtain ⟨requests, results, hrequests, -, hperm, hdisk⟩ :=
      completion_order_is_irrelevant.2 .scripted Planning.localSettings "m" .method none
        ⟨true, true⟩ answeringThrice twoMethods hload
    have hsame : leftByReview (reversedPlansFor requests) = leftBySuggest :=
      hdisk (reversedPlansFor requests) ((List.reverse_perm _).trans hperm)
    obtain ⟨hnames, hchanges, hsaves⟩ := sessionFor_saves hrequests
    have hleft := leftBySuggest_eq hload hrequests
    generalize sessionFor requests = r at hnames hchanges hsaves hleft
    rw [hchanges] at hleft
    change leftBySuggest = ((r.model.save "m" true).run answeringThrice.disk).2 at hleft
    rcases hrun : (r.model.save "m" true).run answeringThrice.disk with ⟨_ | _, d⟩
    · rw [hrun] at hsaves
      cases hsaves
    · rw [hrun] at hleft
      have hsaved := (Assembly.saved hread hrun).model
      exact ⟨requests, r.model, hrequests, hsame, hleft ▸ hsaved, hnames⟩

end Command

end Renaming
