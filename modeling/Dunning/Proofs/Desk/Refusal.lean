import Dunning.Desk.Request
import Dunning.Proofs.Desk.Call

/-!
# Proofs/Desk/Refusal — requests that are refused

A request passes three gates before it changes anything, and a refusal comes from one of them:

    route and method ──404, 405──▸     body or id in the path ──400, 413, 415, 422──▸
    desk: no such account, no such entry ──404──▸     store out of reach ──500──▸

Only the last comes after the library has been changed, and it blames no one who asked.  So an
answer with a status that does (`Response.IsClientError`) leaves the desk alone (`Desk.Spares`).
-/

namespace Dunning

/-- The status blames the request. -/
def Response.IsClientError (r : Response) : Prop := 400 ≤ r.status ∧ r.status < 500

instance (r : Response) : Decidable r.IsClientError := inferInstanceAs (Decidable (_ ∧ _))

namespace Desk

variable {d : Desk} {o : Outage} {c : Call} {s : Setting} {r : Request} {α : Type}

/-- **A fault that blames the request is found before anything is changed.** -/
theorem run_of_refusal {fault : DeskFault} (h : (d.run o c).1 = .error fault)
    (hs : fault.status < 500) : (d.run o c).2 = d := by
  have he := d.run_ends o c
  generalize d.run o c = reply at h he
  cases he with
  | refused => rfl
  | stopped =>
    cases h
    exact absurd hs (Nat.lt_irrefl 500)
  | done => cases h

/-- An answer that leaves a desk alone if it is a refusal. -/
def Spares (d : Desk) (answer : Response × Desk) : Prop :=
  answer.1.IsClientError → answer.2 = d

theorem spares_kept (d : Desk) (response : Response) : d.Spares (response, d) := fun _ => rfl

/-- The answer to a call. -/
theorem spares_answered {status : Nat} {write : α → Json} {reply : Reply α} {f : α → Answer}
    (hrun : d.run o c = reply.mapAnswer f) (hok : status < 400) :
    d.Spares (answered status write reply) := by
  intro h
  obtain ⟨answer, d'⟩ := reply
  cases answer with
  | ok a => exact absurd h.1 (Nat.not_le.2 hok)
  | error fault =>
    have herror : (d.run o c).1 = .error fault := by rw [hrun]; rfl
    have hstop := run_of_refusal herror h.2
    rwa [hrun] at hstop

theorem spares_shown (d : Desk) (write : α → Json) (answer : Except DeskFault α) :
    d.Spares (d.shown write answer) := by
  intro _
  cases answer <;> rfl

theorem spares_withBody {shape : Shape α} {call : α → Response × Desk}
    (h : ∀ a, d.Spares (call a)) : d.Spares (d.withBody r shape call) := by
  rw [withBody]
  cases r.read shape with
  | ok a => exact h a
  | error refusal => exact spares_kept d refusal

theorem spares_withId {encodedId : String} {call : String → Response × Desk}
    (h : ∀ id, d.Spares (call id)) : d.Spares (d.withId encodedId call) := by
  rw [withId]
  cases Text.percentDecode? encodedId with
  | some id => exact h id
  | none => exact spares_kept d _

/-- A request that has a route and a method: what may change the desk is one of five calls. -/
theorem spares_dispatch (d : Desk) (s : Setting) (r : Request) :
    ∀ (route : Request.Route) (verb : Request.Verb), d.Spares (d.dispatch s r route verb)
  | .importUpdates, .post => spares_withBody fun us =>
      spares_answered (c := .importUpdates r.triggeredBy us) rfl (by decide)
  | .apply, .post => spares_answered (c := .apply r.triggeredBy) rfl (by decide)
  | .strategies, .post => spares_withBody fun draft =>
      spares_answered (c := .save r.triggeredBy s.now (Request.sign r.triggeredBy draft)) rfl
        (by decide)
  | .deactivate, .post => spares_answered (c := .deactivate r.triggeredBy s.now) rfl (by decide)
  | .activate _, .post => spares_withId fun id =>
      spares_answered (c := .activate r.triggeredBy s.now id) rfl (by decide)
  | .trial, .post => spares_withBody fun _ => spares_kept d _
  | .accounts, .get | .strategies, .get => spares_shown d _ _
  | .account _, .get => spares_withId fun _ => spares_shown d _ _
  | .ready, .get => by
      rw [dispatch]
      split <;> exact spares_kept d _
  | .health, .get | .metrics, .get | .importUpdates, .get | .apply, .get | .trial, .get
  | .deactivate, .get | .activate _, .get | .health, .post | .ready, .post | .metrics, .post
  | .accounts, .post | .account _, .post => spares_kept d _

/-- **A request that is refused changes nothing**: neither the queue nor the library, so neither
the id that the next draft without an id is given. -/
theorem client_error_spares (h : (d.respond s r).1.IsClientError) :
    (d.respond s r).2.queue = d.queue ∧ (d.respond s r).2.library = d.library ∧
      ∀ draft now, draft.id = none →
        ((d.respond s r).2.library.save draft now).1.id = (d.library.save draft now).1.id := by
  have hkept : (d.respond s r).2 = d := by
    revert h
    rw [respond]
    cases Request.route? r.path with
    | none => exact spares_kept d _
    | some route =>
      cases Request.verb? r.method with
      | none => exact spares_kept d _
      | some verb =>
        intro h
        refine spares_dispatch d s r route verb ?_
        simp only at h
        split at h <;> exact h
  rw [hkept]
  exact ⟨rfl, rfl, fun _ _ _ => rfl⟩

/-- A desk with one saved graph, which is not active. -/
def shelved : Desk :=
  ((opened .standard).run .clear (.save "author" ⟨0⟩ ⟨none, "late", "", .empty, ""⟩)).2

/-- A request to activate a graph that is not there. -/
def strayActivation : Request := ⟨"POST", "/api/v1/strategies/strategy_0002/activate", [], []⟩

/-- The request comes as far as the library, which does not know the id. -/
theorem client_error_spares_stray :
    (shelved.respond ⟨.clear, true, ⟨1⟩⟩ strayActivation).1.status = 404 ∧
      (shelved.respond ⟨.clear, true, ⟨1⟩⟩ strayActivation).2.library = shelved.library := by
  have hstatus : (shelved.respond ⟨.clear, true, ⟨1⟩⟩ strayActivation).1.status = 404 := by
    decide +kernel
  have hrefused : (shelved.respond ⟨.clear, true, ⟨1⟩⟩ strayActivation).1.IsClientError := by
    rw [Response.IsClientError, hstatus]
    decide
  exact ⟨hstatus, (client_error_spares hrefused).2.1⟩

end Desk

end Dunning
