import Orderly.Process.System

/-!
# Routines over a larger signature

Components with signatures of their own meet in a system whose signature has
all their calls.  A routine of one component then issues its calls as calls of
the larger signature.  A view takes an event of the larger signature to the
component's own event, where it has one, and so a contract of the component
carries over, read on what the component sees of a log.
-/

namespace Orderly
namespace Process

/-- Every call of `S` is a call of `T`, and its answers there are answers here. -/
structure Embedding (S T : Signature) where
  call : S.Call → T.Call
  answer : (request : S.Call) → T.Reply (call request) → S.Reply request

variable {S T : Signature} {Err Narrow Wide α : Type}

namespace Program

/-- The same routine, issuing calls of the larger signature. -/
def along (embedding : Embedding S T) : Program S Err α → Program T Err α
  | done value => done value
  | thrown error => thrown error
  | await request resume =>
      await (embedding.call request) fun reply => (resume (reply.map (embedding.answer request))).along embedding

end Program

/-- What one component sees of an event. -/
abbrev View (S T : Signature) (Err Narrow Wide : Type) := Event T Err Wide → Option (Event S Err Narrow)

/-- A call of the component is seen as that call with its answer, and as an event
that the component can meet. -/
def Faithful (embedding : Embedding S T) (view : View S T Err Narrow Wide)
    (WideAdmits : Log T Err Wide → Event T Err Wide → Prop)
    (NarrowAdmits : Log S Err Narrow → Event S Err Narrow → Prop) : Prop :=
  ∀ log request reply before after, WideAdmits log ⟨embedding.call request, reply, before, after⟩ →
    ∃ start final, view ⟨embedding.call request, reply, before, after⟩ =
        some ⟨request, reply.map (embedding.answer request), start, final⟩ ∧
      NarrowAdmits (log.filterMap view) ⟨request, reply.map (embedding.answer request), start, final⟩

namespace Program.Meets

/-- A component's contract in the larger system. -/
theorem along {embedding : Embedding S T} {view : View S T Err Narrow Wide}
    {WideAdmits : Log T Err Wide → Event T Err Wide → Prop}
    {NarrowAdmits : Log S Err Narrow → Event S Err Narrow → Prop}
    {Allowed : Log S Err Narrow → S.Call → Prop} {Returns : α → Log S Err Narrow → Prop}
    {Throws : Err → Log S Err Narrow → Prop} {program : Program S Err α} {log : Log T Err Wide}
    (faithful : Faithful embedding view WideAdmits NarrowAdmits)
    (meets : program.Meets NarrowAdmits Allowed Returns Throws (log.filterMap view)) :
    (program.along embedding).Meets WideAdmits
      (fun log call => ∃ request, call = embedding.call request ∧ Allowed (log.filterMap view) request)
      (fun value log => Returns value (log.filterMap view)) (fun error log => Throws error (log.filterMap view)) log := by
  induction program generalizing log with
  | done value => exact meets
  | thrown error => exact meets
  | await request resume inductionHypothesis =>
      refine ⟨⟨request, rfl, meets.1⟩, fun reply before after admitted => ?_⟩
      rcases faithful log request reply before after admitted with ⟨start, final, seen, allowed⟩
      apply inductionHypothesis
      rw [List.filterMap_cons_some seen]
      exact meets.2 _ start final allowed

end Program.Meets

/-- The routine issues the same calls, as calls of the larger signature. -/
theorem Program.Issues.along {embedding : Embedding S T} {Only : S.Call → Prop} {program : Program S Err α}
    (issues : program.Issues Only) :
    (program.along embedding).Issues fun call => ∃ request, call = embedding.call request ∧ Only request := by
  induction program with
  | done value => trivial
  | thrown error => trivial
  | await request resume inductionHypothesis =>
      exact ⟨⟨request, rfl, issues.1⟩, fun reply => inductionHypothesis _ (issues.2 _)⟩

end Process
end Orderly
