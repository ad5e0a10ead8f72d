import ApiGateway.Proofs.Reading.Sound
import ApiGateway.Schema.Document

/-
What is true of every document that was read.

Where names stand for something, no name stands twice; lengths take at most 64 bits; and the operands
of a test are as values are read: the keys of their objects ascend, and their integers take at most
64 bits. Every reader ensures this for its part, in whatever format the text is
(`Document.parse_wellFormed`).
-/

namespace ApiGateway

open Reading (Attempt LawfulAttempt Readable SoundTrees SoundViews Yields)

/-- The lengths declared of a member take at most 64 bits. -/
structure Member.WellFormed (member : Member) : Prop where
  length : ∀ n ∈ member.length, n < 2 ^ 64
  minLength : ∀ n ∈ member.minLength, n < 2 ^ 64
  maxLength : ∀ n ∈ member.maxLength, n < 2 ^ 64

structure Members.WellFormed (members : Members) : Prop where
  names : (members.map (·.1)).Nodup
  each : ∀ e ∈ members, e.2.WellFormed

def DataType.WellFormed (type : DataType) : Prop := type.members.WellFormed

/-- The conditions name different fields, and their operands are as they are read from a text. -/
structure Test.WellFormed (test : Test) : Prop where
  names : (test.map (·.1)).Nodup
  sorted : ∀ e ∈ test, e.2.Sorted
  measured : ∀ e ∈ test, e.2.Measured

structure Forward.WellFormed (forward : Forward) : Prop where
  grpc : ∀ target ∈ forward.grpc, (target.fields.map (·.1)).Nodup
  http : ∀ target ∈ forward.http, (target.fields.map (·.1)).Nodup
  test : ∀ test ∈ forward.test, Test.WellFormed test

def ReturnData.WellFormed : ReturnData → Prop
  | .typeName _ => True
  | .members ms => ms.WellFormed

def Return.WellFormed (r : Return) : Prop := ∀ data ∈ r.data, data.WellFormed

structure Endpoint.WellFormed (endpoint : Endpoint) : Prop where
  sources : (endpoint.params.map (·.1)).Nodup
  params : ∀ e ∈ endpoint.params, e.2.WellFormed
  forwards : ∀ forward ∈ endpoint.forwards, forward.WellFormed
  statuses : (endpoint.returns.map (·.1)).Nodup
  returns : ∀ e ∈ endpoint.returns, e.2.WellFormed

structure Document.WellFormed (document : Document) : Prop where
  types : ∀ type ∈ document.types, type.WellFormed
  endpoints : ∀ endpoint ∈ document.endpoints, endpoint.WellFormed

/-! ### Readers -/

section

variable {m : Type → Type} [Attempt m] [MonadAttach m] [LawfulAttempt m] {ν : Type} [Readable ν m]
  [SoundTrees ν] [SoundViews ν m] {v : ν}

theorem Member.read?_wellFormed (sound : SoundTrees.Sound v) :
    Yields (Member.read? v) Member.WellFormed := by
  have natural := fun w (inside : SoundTrees.Sound w) => SoundViews.natural (m := m) (ν := ν) w inside
  refine (Yields.members? sound).bind fun ms inside => Yields.andThen fun _ => Yields.andThen fun _ =>
    Yields.andThen fun _ => ?_
  refine (Yields.optionalMember natural inside 3).bind fun length bounded => ?_
  refine (Yields.optionalMember natural inside 4).bind fun minLength minBounded => ?_
  refine (Yields.optionalMember natural inside 5).bind fun maxLength maxBounded => ?_
  exact Yields.pure ⟨bounded, minBounded, maxBounded⟩

theorem Members.read?_wellFormed (sound : SoundTrees.Sound v) :
    Yields (Members.read? v) Members.WellFormed :=
  (Yields.mapOf? (fun _ inside => Member.read?_wellFormed inside) sound).imp fun _ kept =>
    ⟨kept.1, kept.2⟩

theorem DataType.read?_wellFormed (sound : SoundTrees.Sound v) :
    Yields (DataType.read? v) DataType.WellFormed := by
  refine (Yields.members? sound).bind fun ms inside => Yields.andThen fun _ => Yields.andThen fun _ =>
    ?_
  have none : Members.WellFormed [] := ⟨List.nodup_nil, nofun⟩
  exact (Yields.memberD (fun _ within => Members.read?_wellFormed within) inside 2 none).bind
    fun members kept => Yields.pure kept

theorem Forward.readFields?_nodup (sound : SoundTrees.Sound v) :
    Yields (Forward.readFields? v) fun fields => (fields.map (·.1)).Nodup :=
  (Yields.mapOf? (P := fun _ => True) (fun _ _ _ _ => trivial) sound).imp fun _ kept => kept.1

theorem Forward.readGrpc?_nodup (sound : SoundTrees.Sound v) :
    Yields (Forward.readGrpc? v) fun target => (target.fields.map (·.1)).Nodup := by
  refine (Yields.members? sound).bind fun ms inside => Yields.andThen fun _ => ?_
  exact (Yields.memberD (fun _ within => Forward.readFields?_nodup within) inside 1
    (by simp)).bind fun fields kept => Yields.pure kept

theorem Forward.readHttp?_nodup (sound : SoundTrees.Sound v) :
    Yields (Forward.readHttp? v) fun target => (target.fields.map (·.1)).Nodup := by
  refine (Yields.members? sound).bind fun ms inside => Yields.andThen fun _ => Yields.andThen fun _ =>
    ?_
  exact (Yields.memberD (fun _ within => Forward.readFields?_nodup within) inside 2
    (by simp)).bind fun fields kept => Yields.pure kept

theorem Forward.readTest?_wellFormed (sound : SoundTrees.Sound v) :
    Yields (Forward.readTest? v) Test.WellFormed :=
  (Yields.mapOf? (fun w inside => SoundViews.json w inside) sound).imp fun _ kept =>
    ⟨kept.1, fun e there => (kept.2 e there).1, fun e there => (kept.2 e there).2⟩

theorem Forward.read?_wellFormed (sound : SoundTrees.Sound v) :
    Yields (Forward.read? v) Forward.WellFormed := by
  refine (Yields.members? sound).bind fun ms inside => Yields.andThen fun _ => Yields.andThen fun _ =>
    ?_
  refine (Yields.optionalMember (fun _ within => readGrpc?_nodup within) inside 2).bind
    fun grpc grpcKept => Yields.andThen fun _ => ?_
  refine (Yields.optionalMember (fun _ within => readHttp?_nodup within) inside 4).bind
    fun http httpKept => Yields.andThen fun _ => ?_
  refine (Yields.optionalMember (fun _ within => readTest?_wellFormed within) inside 6).bind
    fun test testKept => Yields.andThen fun _ => ?_
  exact Yields.pure ⟨grpcKept, httpKept, testKept⟩

/-- Members of a reply are read out of content, whatever the format. -/
theorem ReturnData.read?_wellFormed (sound : SoundTrees.Sound v) :
    Yields (ReturnData.read? v) ReturnData.WellFormed := by
  refine (SoundViews.content v sound).bind fun c inside => ?_
  have members : Yields (do return ReturnData.members (← (Members.read? c).getM) : m ReturnData)
      ReturnData.WellFormed :=
    (Yields.getM fun ms read => Members.read?_wellFormed (m := Option) inside ms read).bind
      fun ms kept => Yields.pure kept
  cases c with
  | text s => exact Yields.pure trivial
  | _ => exact members

theorem Return.read?_wellFormed (sound : SoundTrees.Sound v) :
    Yields (Return.read? v) Return.WellFormed := by
  refine (Yields.members? sound).bind fun ms inside => Yields.andThen fun _ => ?_
  exact (Yields.optionalMember (fun _ within => ReturnData.read?_wellFormed within) inside 1).bind
    fun data kept => Yields.andThen fun _ => Yields.pure kept

theorem Endpoint.read?_wellFormed (sound : SoundTrees.Sound v) :
    Yields (Endpoint.read? v) Endpoint.WellFormed := by
  refine (Yields.members? sound).bind fun ms inside => Yields.andThen fun _ => Yields.andThen fun _ =>
    Yields.andThen fun _ => ?_
  have groups : ∀ w : ν, SoundTrees.Sound w → Yields (ParamGroups.read? w : m ParamGroups) fun gs =>
      (gs.map Prod.fst).Nodup ∧ ∀ e ∈ gs, e.2.WellFormed := fun w within =>
    Yields.mapOf? (fun _ within => Members.read?_wellFormed within) within
  refine (Yields.memberD groups inside 3 (by simp)).bind fun params paramsKept => ?_
  refine (Yields.memberD (fun _ within => Yields.listOf? (fun _ within =>
    Forward.read?_wellFormed within) within) inside 4 (by simp)).bind fun forwards forwardsKept => ?_
  refine (Yields.memberD (fun _ within => Yields.mapOf? (fun _ within =>
    Return.read?_wellFormed within) within) inside 5 (by simp)).bind
    fun returns returnsKept => ?_
  exact Yields.pure ⟨paramsKept.1, paramsKept.2, forwardsKept, returnsKept.1, returnsKept.2⟩

theorem Document.read?_wellFormed (sound : SoundTrees.Sound v) :
    Yields (Document.read? v) Document.WellFormed := by
  refine (Yields.members? sound).bind fun ms inside => Yields.andThen fun _ => Yields.andThen fun _ =>
    Yields.andThen fun _ => ?_
  refine (Yields.memberD (fun _ within => Yields.listOf? (fun _ within =>
    DataType.read?_wellFormed within) within) inside 3 (by simp)).bind fun types typesKept => ?_
  refine (Yields.memberD (fun _ within => Yields.listOf? (fun _ within =>
    Endpoint.read?_wellFormed within) within) inside 4 (by simp)).bind fun endpoints endpointsKept => ?_
  exact Yields.pure ⟨typesKept, endpointsKept⟩

end

/-- A document that was read is well-formed, in whatever format it was written. -/
theorem Document.parse_wellFormed {wanted : Reading.Wanted} {text : String} {document : Document}
    {format : Reading.Format} (parsed : Document.parse wanted text = .ok (document, format)) :
    document.WellFormed := by
  have ensures : ∀ f, Reading.parseAs? Document.read? text f = some document →
      document.WellFormed := fun f =>
    Reading.parseAs?_yields (fun v sound => Document.read?_wellFormed sound)
  unfold Document.parse Reading.parseDocument at parsed
  split at parsed
  · cases parsed
  · unfold Reading.parse at parsed
    cases wanted with
    | only f =>
      dsimp only at parsed
      split at parsed
      next d read =>
        cases parsed
        exact ensures _ read
      next => cases parsed
    | either =>
      dsimp only at parsed
      split at parsed
      next d read =>
        cases parsed
        exact ensures _ read
      next =>
        split at parsed
        next d read =>
          cases parsed
          exact ensures _ read
        next => cases parsed

end ApiGateway
