import ApiGateway.Proofs.Expression.Substitution
import ApiGateway.Proofs.Forwarding.Descent
import ApiGateway.Proofs.Forwarding.Provenance

/-
What forwards send.

The fields of a call are what the declared texts come to, where each reference has the value that
the run resolves it to. A reference that has a value keeps it, so the results that a run ends with
account for all the calls in it.

* `Run.Gives` - a reference has a value.
* `Run.Fills` - each field of a compiled forward combines what the text that was declared comes to.
* `Run.Sends` - the fields of a call are what the declared texts come to.
* `Chain.sends_executions` - compiled forwards fill their fields in any run, and send nothing else in
  any number of executions.
-/

namespace ApiGateway

variable {ω : Type}

namespace Run

/-- A reference of a forward has a value. -/
def Gives (r : Run ω) (params : Json) (name : String) (ref : FieldRef) (x : Json) : Prop :=
  r.resolveRef params name ref = .ok x

/-- Each field of a compiled forward stands for one that was declared: where all its references have
values it takes one for each, and combines what the declared text comes to and nothing else. -/
def Fills (r : Run ω) (params : Json) (f : Forward) (node : ForwardNode) : Prop :=
  List.Forall₂ (fun declared field => field.1 = declared.1 ∧
      ∀ xs, field.2.refs.mapM (r.resolveRef params node.name) = .ok xs →
        xs.length = field.2.refs.length ∧
          ∀ x, FieldExpr.Sends (r.Gives params f.name) declared.2 x ↔ field.2.combine xs = x)
    f.mapping node.mapping

/-- The fields of a call are those that a forward declares, each with what its text comes to. -/
def Sends (r : Run ω) (params : Json) (f : Forward) (fields : CallFields) : Prop :=
  List.Forall₂ (fun declared field => field.1 = declared.1 ∧
      FieldExpr.Sends (r.Gives params f.name) declared.2 field.2)
    f.mapping fields

variable {forward : Forwarder ω} {params : Json} {r r' : Run ω} {node : ForwardNode}

/-- A reference that has a value has it in a later run too. -/
theorem Gives.mono {name : String} {ref : FieldRef} {x : Json} (later : r'.Extends r)
    (gives : r.Gives params name ref x) : r'.Gives params name ref x := by
  cases ref with
  | param field => exact gives
  | reply dep field =>
    unfold Gives resolveRef at gives ⊢
    dsimp only at gives ⊢
    cases found : r.result? dep with
    | none =>
      rw [found] at gives
      cases gives
    | some result =>
      rw [later.results dep result found]
      rwa [found] at gives

theorem Sends.mono {f : Forward} {fields : CallFields} (later : r'.Extends r)
    (sends : r.Sends params f fields) : r'.Sends params f fields :=
  sends.imp fun _ _ ⟨dest, own⟩ => ⟨dest, own.mono fun _ _ => Gives.mono later⟩

/-- After the turn of a forward a run has all that it had before. -/
theorem call_extends (forward : Forwarder ω) (params : Json) (node : ForwardNode) (r : Run ω) :
    (r.call forward params node).2.Extends r := by
  obtain ⟨results, calls⟩ := perform_extends forward params node r
  rw [call_eq]
  exact ⟨results, calls⟩

end Run

namespace ForwardNode

variable {f : Forward} {node : ForwardNode} {params : Json} {fields : CallFields}

theorem reads_of_readMapping {name : String} {texts : FieldTexts} {m : Mapping}
    (read : readMapping name texts = .ok m) :
    List.Forall₂ (fun declared field => field.1 = declared.1 ∧
      FieldExpr.parse declared.2 = .ok field.2) texts m := by
  induction texts generalizing m with
  | nil =>
    cases read
    exact .nil
  | cons declared texts ih =>
    obtain ⟨dest, text⟩ := declared
    obtain ⟨e, parsed, rest⟩ := bind_eq_ok_iff.mp read
    obtain ⟨m', others, same⟩ := bind_eq_ok_iff.mp rest
    cases same
    exact .cons ⟨rfl, mapError_eq_ok_iff.mp parsed⟩ (ih others)

/-- A compiled forward has an expression for each text that was declared. -/
theorem reads_of_compile (compiled : ForwardNode.compile f = .ok node) :
    List.Forall₂ (fun declared field => field.1 = declared.1 ∧
      FieldExpr.parse declared.2 = .ok field.2) f.mapping node.mapping := by
  obtain ⟨_, _, _, _, -, -, read, -, rfl⟩ := exists_of_compile compiled
  exact reads_of_readMapping read

/-- A compiled forward fills its fields, whatever the run. -/
theorem fills_of_compile (compiled : ForwardNode.compile f = .ok node) (r : Run ω) :
    r.Fills params f node := by
  have named := (compile_keeps compiled).1
  refine (reads_of_compile compiled).imp ?_
  rintro ⟨dest, text⟩ ⟨_, e⟩ ⟨rfl, parsed⟩
  refine ⟨rfl, fun xs resolved => ?_⟩
  rw [named] at resolved
  have own : List.Forall₂ (r.Gives params f.name) e.refs xs := mapM_eq_ok_iff.mp resolved
  refine ⟨own.length_eq.symm, fun x => (FieldExpr.sends_iff parsed).trans ⟨?_, ?_⟩⟩
  · rintro ⟨ys, others, rfl⟩
    have again : .ok ys = Except.ok xs := (mapM_eq_ok_iff.mpr others).symm.trans resolved
    cases again
    rfl
  · intro combined
    exact ⟨xs, own, combined⟩

/-- The fields that a compiled forward resolves are what the declared texts come to. -/
theorem sends_of_resolve (compiled : ForwardNode.compile f = .ok node) {r : Run ω}
    (resolved : r.resolve params node = .ok fields) : r.Sends params f fields := by
  have named := (compile_keeps compiled).1
  have reads := reads_of_compile compiled
  unfold Run.resolve at resolved
  have sent := mapM_eq_ok_iff.mp resolved
  unfold Run.Sends
  clear resolved
  generalize node.mapping = mapping at reads sent
  generalize f.mapping = texts at reads ⊢
  induction reads generalizing fields with
  | nil =>
    cases sent
    exact .nil
  | cons first _ ih =>
    cases sent with
    | cons own others =>
    obtain ⟨dest, parsed⟩ := first
    obtain ⟨xs, given, same⟩ := bind_eq_ok_iff.mp own
    cases same
    rw [named] at given
    exact .cons ⟨dest, FieldExpr.sends_combine parsed (mapM_eq_ok_iff.mp given)⟩ (ih others)

end ForwardNode

namespace Chain

variable {fs : List Forward} {c : Chain}

/-- The calls of a run sent what was declared for them. -/
def Sent (fs : List Forward) (params : Json) (r : Run ω) : Prop :=
  ∀ call ∈ r.calls, ∃ f ∈ fs, f.name = call.node ∧ r.Sends params f call.fields

/-- The turn of a compiled forward sends what was declared for it. -/
theorem Sent.call {params : Json} {r : Run ω} (sent : Sent fs params r) (forward : Forwarder ω)
    {f : Forward} {node : ForwardNode} (declared : f ∈ fs)
    (compiled : ForwardNode.compile f = .ok node) :
    Sent fs params (r.call forward params node).2 := by
  have later := Run.call_extends forward params node r
  have before : ∀ call ∈ r.calls, ∃ f ∈ fs, f.name = call.node ∧
      (r.call forward params node).2.Sends params f call.fields := by
    intro call hcall
    obtain ⟨f, hf, named, sends⟩ := sent call hcall
    exact ⟨f, hf, named, sends.mono later⟩
  cases resolved : r.resolve params node with
  | error e =>
    have same : (r.call forward params node).2.calls = r.calls := by
      simp [Run.call, resolved, Run.finish]
    intro call hcall
    exact before call (same ▸ hcall)
  | ok fields =>
    have one : (r.call forward params node).2.calls = r.calls ++ [⟨node.name, fields⟩] := by
      simp [Run.call, resolved, Run.finish]
    intro call hcall
    rw [one, List.mem_append, List.mem_singleton] at hcall
    rcases hcall with old | rfl
    · exact before call old
    · have named := (ForwardNode.compile_keeps compiled).1
      exact ⟨f, declared, named.symm, (ForwardNode.sends_of_resolve compiled resolved).mono later⟩

/-- **What forwards send is what their texts come to.** In any run the compiled forwards fill their
fields, and each call that any number of executions makes has the fields that its forward declares,
each with what its text comes to. -/
theorem sends_executions (compiled : fs.mapM ForwardNode.compile = .ok c.nodes)
    (forward : Forwarder ω) (params : Json) (world : ω) (n : Nat) :
    (∀ r : Run ω, List.Forall₂ (fun f node => r.Fills params f node) fs c.nodes) ∧
      ∀ call ∈ (c.executions forward params world n).calls, ∃ f ∈ fs, f.name = call.node ∧
        (c.executions forward params world n).Sends params f call.fields := by
  have each := mapM_eq_ok_iff.mp compiled
  refine ⟨fun r => each.imp fun f node own => ForwardNode.fills_of_compile own r, ?_⟩
  have sent : Sent fs params (c.executions forward params world n) := by
    refine keeps_executions (fun r p sent => sent) (fun r node hnode sent => ?_) nofun n
    obtain ⟨f, hf, own⟩ := exists_of_mem_mapM compiled hnode
    exact sent.call forward hf own
  exact sent

/-- A tag is printed for an item: its name is looked up, and the request says what is taken off. -/
def tagForwards : List Forward :=
  [{ name := "item", grpc := some { method := "Find" } },
    { name := "tag", deps := ["item"],
      grpc := some { method := "Print",
                     fields := [("text", "item.name|off|%s: %d%%"), ("by", "user")] } }]

def tagChain : Chain := ⟨(tagForwards.mapM ForwardNode.compile).toOption.getD []⟩

/-- The name of the item is written with percent signs and a bar, and is printed as it is. -/
theorem sends_executions_tag :
    tagForwards.mapM ForwardNode.compile = .ok tagChain.nodes ∧
      ∃ forward : Forwarder Unit, ∃ params : Json,
        (tagChain.executions forward params () 1).calls.map
            (fun call => call.fields.map fun field => (field.1, field.2.text)) =
          [[], [("text", "\"5%s|%d: 20%\""), ("by", "\"%v|x\"")]] ∧
        ∀ call ∈ (tagChain.executions forward params () 1).calls, ∃ f ∈ tagForwards,
          f.name = call.node ∧
            (tagChain.executions forward params () 1).Sends params f call.fields := by
  have compiled : tagForwards.mapM ForwardNode.compile = .ok tagChain.nodes := rfl
  refine ⟨compiled, fun _ _ world => (.ok (Text.encode "\x7b\"name\":\"5%s|%d\"\x7d"), world),
    .object [("off", .number (.int 20)), ("user", .string "%v|x")], ?_, ?_⟩
  · decide +kernel
  · exact (sends_executions compiled _ _ () 1).2

end Chain

end ApiGateway
