import ApiGateway.Graph.Plan
import ApiGateway.Proofs.Attempts
import ApiGateway.Proofs.Validation.Clean
import ApiGateway.Serving.Api

/-
Validation, planning and compilation agree.

* `Forward.UrlReads` - the url of a call over HTTP can be read; `Forward.UrlFault` - how compiling
  fails when it cannot.
* `Document.Agreed` - planning never fails and plans what is valid, and what is valid compiles unless
  a url cannot be read.

Planning and compiling look again at what validation has looked at. A complete document leaves
planning nothing to find (`Document.Complete.exists_plan`), and leaves compiling only the urls, which
nothing else reads (`Document.decides_compile_of_validate`). Hence `Document.agreed`.
-/

namespace ApiGateway

/-! ### Planning -/

namespace Forward.Complete

variable {f : Forward}

theorem exists_plan (h : f.Complete) (graph : ForwardGraph) (route : String) :
    ∃ p, f.plan graph route = .ok p := by
  obtain ⟨t, only, -⟩ := h.target
  unfold plan
  rw [h.fields, target?_of_targets only]
  dsimp only
  cases written : f.test with
  | none => exact ⟨_, rfl⟩
  | some test =>
    obtain ⟨c, read⟩ := h.test test written
    dsimp only
    rw [read]
    exact ⟨_, rfl⟩

end Forward.Complete

theorem Endpoint.Complete.exists_plan {e : Endpoint} (h : e.Complete) (base : String) :
    ∃ p, e.plan base = .ok p := by
  obtain ⟨method, written⟩ := h.method
  obtain ⟨graph, built⟩ := h.graph
  obtain ⟨forwards, planned⟩ := exists_mapM fun f hf =>
    (h.forwards f hf).exists_plan graph (method.name ++ " " ++ joinUrl base e.url)
  refine ⟨⟨method, joinUrl base e.url, e.plannedParams, graph, forwards⟩, ?_⟩
  unfold plan
  rw [written, built]
  exact bind_eq_ok_iff.mpr ⟨method, rfl, bind_eq_ok_iff.mpr ⟨graph, rfl,
    bind_eq_ok_iff.mpr ⟨forwards, planned, rfl⟩⟩⟩

namespace Document

variable {d : Document}

/-- A document that does not pass is reported and not planned. -/
theorem plan_of_violations (broken : d.violations ≠ []) : ∃ o, d.plan = .ok o ∧ o.plan = none := by
  have invalid : (ValidationSummary.mk (d.violations.map Violation.line)
      (d.warnings.map Violation.line)).isValid = false := by
    simpa [ValidationSummary.isValid] using broken
  refine ⟨⟨⟨d.violations.map Violation.line, d.warnings.map Violation.line⟩, none⟩, ?_, rfl⟩
  unfold plan
  dsimp only
  rw [invalid]
  rfl

theorem Complete.exists_plan (h : d.Complete) (clean : d.violations = []) :
    ∃ o, d.plan = .ok o ∧ o.plan.isSome = true := by
  obtain ⟨endpoints, planned⟩ := exists_mapM fun e he => (h.endpoints e he).exists_plan d.baseUrl
  refine ⟨⟨⟨[], d.warnings.map Violation.line⟩, some ⟨d.version, d.baseUrl, endpoints⟩⟩, ?_, rfl⟩
  unfold plan
  rw [clean]
  exact bind_eq_ok_iff.mpr ⟨endpoints, planned, rfl⟩

end Document

/-! ### Compiling -/

namespace Forward

/-- The url of a call over HTTP can be read. -/
def UrlReads (f : Forward) : Prop := ∀ t, f.http = some t → ∃ url, Url.parse t.url = .ok url

/-- How compiling fails when the url of a call over HTTP cannot be read. -/
def UrlFault (f : Forward) (e : ForwardError) : Prop :=
  ∃ t cause, f.http = some t ∧ Url.parse t.url = .error cause ∧
    e = ⟨f.name, .http ("invalid url '" ++ t.url ++ "': " ++ cause.message)⟩

variable {f : Forward}

theorem http_eq_some_iff {t : Target} {t' : HttpTarget} (only : f.targets = [t]) :
    f.http = some t' ↔ t = .http t' := by
  unfold targets at only
  cases hg : f.grpc <;> cases hr : f.redis <;> cases hh : f.http <;> grind

/-- The destination of the one target can be read unless its url cannot. -/
theorem decides_destination {t : Target} (only : f.targets = [t]) (reads : t.MethodReads) :
    Decides (ForwardNode.destination? f.name t) f.UrlReads f.UrlFault := by
  cases t with
  | grpc t =>
    refine .of_ok rfl fun t' written => ?_
    cases (http_eq_some_iff only).mp written
  | redis t =>
    refine .of_ok rfl fun t' written => ?_
    cases (http_eq_some_iff only).mp written
  | http t =>
    have written : f.http = some t := (http_eq_some_iff only).mpr rfl
    have url : Decides ((Url.parse t.url).mapError fun e =>
        (⟨f.name, .http ("invalid url '" ++ t.url ++ "': " ++ e.message)⟩ : ForwardError))
        f.UrlReads f.UrlFault := by
      cases read : Url.parse t.url with
      | ok url =>
        refine .of_ok rfl fun t' same => ?_
        cases written.symm.trans same
        exact ⟨url, read⟩
      | error cause =>
        refine .of_failed rfl (fun holds => ?_) ⟨t, cause, written, read, rfl⟩
        obtain ⟨url, same⟩ := holds t written
        cases read.symm.trans same
    refine url.bind fun url => ?_
    cases named : t.method with
    | none => exact ⟨_, rfl⟩
    | some text =>
      obtain ⟨m, parsed⟩ := reads text named
      dsimp only
      rw [parsed]
      exact ⟨_, rfl⟩

/-- The fields of a forward can be read when none is in error. -/
theorem exists_readMapping (node : String) {fields : FieldTexts}
    (sound : ∀ field text, (field, text) ∈ fields → ∃ e, FieldExpr.parse text = .ok e) :
    ∃ m, ForwardNode.readMapping node fields = .ok m := by
  induction fields with
  | nil => exact ⟨[], rfl⟩
  | cons entry fields ih =>
    obtain ⟨field, text⟩ := entry
    obtain ⟨e, read⟩ := sound field text List.mem_cons_self
    obtain ⟨m, rest⟩ := ih fun field text h => sound field text (List.mem_cons_of_mem _ h)
    refine ⟨(field, e) :: m, ?_⟩
    rw [ForwardNode.readMapping, read]
    exact bind_eq_ok_iff.mpr ⟨e, rfl, bind_eq_ok_iff.mpr ⟨m, rest, rfl⟩⟩

theorem parse_of_expressionErrors (sound : f.expressionErrors = []) {field text : String}
    (h : (field, text) ∈ f.mapping) : ∃ e, FieldExpr.parse text = .ok e := by
  have none := List.filterMap_eq_nil_iff.mp sound _ h
  dsimp only at none
  split at none
  · rename_i e read
    exact ⟨e, read⟩
  · cases none

theorem Complete.decides_compile (h : f.Complete) :
    Decides (ForwardNode.compile f) f.UrlReads f.UrlFault := by
  obtain ⟨t, only, reads⟩ := h.target
  unfold ForwardNode.compile
  rw [target?_of_targets only]
  refine (decides_destination only reads).bind fun destination => ?_
  obtain ⟨mapping, read⟩ := exists_readMapping f.name fun _ _ => parse_of_expressionErrors h.fields
  rw [read]
  cases written : f.test with
  | none => exact ⟨_, rfl⟩
  | some test =>
    obtain ⟨c, parsed⟩ := h.test test written
    dsimp only
    rw [parsed]
    exact ⟨_, rfl⟩

end Forward

namespace Endpoint

/-- The urls of all calls over HTTP can be read. -/
def UrlsRead (e : Endpoint) : Prop := ∀ f ∈ e.forwards, f.UrlReads

/-- How compiling fails when one of them cannot: the fault of its forward, laid to the endpoint. -/
def UrlFault (base : String) (e : Endpoint) (err : CompileError) : Prop :=
  ∃ cause, (∃ f ∈ e.forwards, f.UrlFault cause) ∧ err = .forward (joinUrl base e.url) cause

theorem Complete.decides_compile {e : Endpoint} (h : e.Complete) (base : String)
    (types : TypeRegistry) :
    Decides (Route.compile base types e) e.UrlsRead (e.UrlFault base) := by
  obtain ⟨method, written⟩ := h.method
  obtain ⟨graph, built⟩ := h.graph
  have chain : Decides (Chain.compile e.forwards) e.UrlsRead
      fun cause => ∃ f ∈ e.forwards, f.UrlFault cause := by
    unfold Chain.compile
    rw [built]
    exact (Decides.mapM fun f hf => (h.forwards f hf).decides_compile).bind fun _ => ⟨_, rfl⟩
  unfold Route.compile
  rw [written]
  exact chain.mapError.bind fun _ => ⟨_, rfl⟩

end Endpoint

namespace Document

variable {d : Document}

/-- A valid document compiles unless a url cannot be read. -/
theorem decides_compile_of_validate (valid : d.validate = .ok ()) :
    Decides (Api.compile d) (∀ e ∈ d.endpoints, e.UrlsRead)
      fun err => ∃ e ∈ d.endpoints, e.UrlFault d.baseUrl err := by
  have complete := complete_of_validate valid
  unfold Api.compile
  rw [valid, complete.types]
  exact (Decides.mapM fun e he =>
    (complete.endpoints e he).decides_compile d.baseUrl ⟨d.types⟩).bind fun _ => ⟨_, rfl⟩

theorem validate_of_compile {a : Api} (compiled : Api.compile d = .ok a) :
    d.validate = .ok () := by
  obtain ⟨_, checked, -⟩ := bind_eq_ok_iff.mp compiled
  exact mapError_eq_ok_iff.mp checked

/-! ### Agreement -/

/-- Validation, planning and compilation agree on a document. -/
structure Agreed (d : Document) : Prop where
  /-- Planning does not fail, and there is a plan exactly when the document is valid. -/
  plans : ∃ o, d.plan = .ok o ∧ (o.plan.isSome = true ↔ d.validate = .ok ())
  /-- What is valid and has only urls that can be read is what compiles. -/
  compiles : (∃ a, Api.compile d = .ok a) ↔
    d.validate = .ok () ∧ ∀ e ∈ d.endpoints, ∀ f ∈ e.forwards, f.UrlReads
  /-- Nothing but such a url keeps a valid document from compiling. -/
  faults : ∀ err, d.validate = .ok () → Api.compile d = .error err →
    ∃ e ∈ d.endpoints, ∃ f ∈ e.forwards, ∃ cause,
      f.UrlFault cause ∧ err = .forward (joinUrl d.baseUrl e.url) cause

/-- Planning and compiling find nothing wrong that validation leaves, but for urls. -/
theorem agreed (d : Document) : d.Agreed where
  plans := by
    by_cases clean : d.violations = []
    · have valid := validate_eq_ok_iff.mpr clean
      obtain ⟨o, planned, made⟩ := (complete_of_validate valid).exists_plan clean
      exact ⟨o, planned, iff_of_true made valid⟩
    · obtain ⟨o, reported, none⟩ := plan_of_violations clean
      refine ⟨o, reported, iff_of_false ?_ (mt validate_eq_ok_iff.mp clean)⟩
      rw [none]
      exact Bool.false_ne_true
  compiles := by
    constructor
    · rintro ⟨a, compiled⟩
      have valid := validate_of_compile compiled
      exact ⟨valid, (decides_compile_of_validate valid).ok_iff.mp ⟨a, compiled⟩⟩
    · rintro ⟨valid, read⟩
      exact (decides_compile_of_validate valid).ok_iff.mpr read
  faults := by
    intro err valid failed
    obtain ⟨e, he, cause, ⟨f, hf, fault⟩, same⟩ :=
      (decides_compile_of_validate valid).of_error err failed
    exact ⟨e, he, f, hf, cause, fault, same⟩

/-- A document that is valid although its one url has no host. -/
def withoutHost : Document where
  version := "1"
  baseUrl := "/"
  endpoints := [{
    url := "/page"
    forwards := [{ name := "call", http := some { url := "http://" } }]
    returns := [("204", { type := some "nocontent" })] }]

example : withoutHost.validate = .ok () ∧
    (match Api.compile withoutHost with
      | .ok _ => none
      | .error e => some e.message) =
      some ("api /page: forward 'call': http request failed: " ++
        "invalid url 'http://': empty host") := by
  decide +kernel

end Document

end ApiGateway
