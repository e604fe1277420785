/-
  Federation.Proofs.Invocation.TrustProofs
  ────────────────────────────────────────
  **WHAT BECOMES OF A PROOF.**

  From version 2 on an aggregate may put a proof beside its answer.  The
  proof goes to the keeper of credentials, once and whatever else the reply
  says, and there it ends: the result is the same with another proof or with
  none, and whether the keeper could keep it decides about nothing.  Below
  version 2 there are no envelopes, so a member of that name is part of the
  value like any other.

  Main results:
    * `proofOf?_eq_some_iff` — which proofs come with a response;
    * `normalise_congr` — what replies mean that differ in the proof alone;
    * `proof_kept_apart` — what becomes of a proof, and of all else;
    * `run_keeping` — an invocation does not depend on whether proofs can be
      kept.
-/
import Federation.Proofs.Invocation.Stages

namespace Federation

open Call (Response Visit)

namespace Answer

/-! ## §1. Proofs and replies. -/

/-- **Whether a proof comes with a response** to a call at a version. -/
inductive Enclosed (version : Nat) : Response → Json → Prop
  | reply {members : Keyed String Json} {proof : Json} (enveloped : 2 ≤ version)
      (found : members.get? "proof" = some proof) :
      Enclosed version (.replied (.object members)) proof

/-- **Which proofs come with a response.** -/
theorem proofOf?_eq_some_iff {version : Nat} {response : Response} {proof : Json} :
    proofOf? version response = some proof ↔ Enclosed version response proof := by
  constructor
  · intro h
    unfold proofOf? at h
    split at h
    · rename_i reply
      split at h
      · cases h
      · rename_i henveloped
        cases reply with
        | object members => exact .reply (Nat.le_of_not_lt henveloped) h
        | _ => cases h
    · cases h
  · rintro ⟨henveloped, hfound⟩
    exact (if_neg (Nat.not_lt.2 henveloped)).trans hfound

/-- **Replies that differ in the proof alone**: each has its own, or one of
them has none. -/
inductive ButForProof : Json → Json → Prop
  | same (reply : Json) : ButForProof reply reply
  | objects {members others : Keyed String Json}
      (agree : ∀ name, name ≠ "proof" → members.get? name = others.get? name) :
      ButForProof (.object members) (.object others)

theorem butForProof_without (reply : Json) : ButForProof reply (reply.without "proof") := by
  cases reply with
  | object members =>
      exact .objects fun name hname => (Keyed.get?_erase_ne members (Ne.symm hname)).symm
  | _ => exact .same _

/-- **Replies that differ in the proof alone mean the same.** -/
theorem normalise_congr (mode : Mode) {version : Nat} {reply other : Json}
    (enveloped : 2 ≤ version) (h : ButForProof reply other) :
    normalise mode version (.replied reply) = normalise mode version (.replied other) := by
  cases h with
  | same => rfl
  | objects agree =>
      have hversion : ¬version < envelopeVersion := Nat.not_lt.2 enveloped
      rw [normalise_replied, normalise_replied]
      unfold unwrap
      rw [if_neg hversion, if_neg hversion]
      refine openEnvelope_congr mode rfl fun key hkey => agree key fun heq => ?_
      rw [heq] at hkey
      exact absurd hkey (by decide)

end Answer

namespace Engine

open Answer (ButForProof Enclosed Report)

/-! ## §2. One visit. -/

/-- **What becomes of the proof of a visit**, and of all else. -/
structure Apart (w : World) (mode : Mode) (version : Nat) (v : Visit) (s : Session) : Prop where
  /-- A proof is handed over once, as that of the endpoint called, and nothing
  else happens. -/
  handed : ∀ proof, Enclosed (v.version.getD version) v.response proof →
    (interpret w mode version v s).2 =
      { s with
        credentialEvents := s.credentialEvents ++
          [.proof (v.called.getD v.slot) proof (w.keepsProof (v.called.getD v.slot) proof)] }
  /-- Where there is none, nothing happens at all. -/
  quiet : (∀ proof, ¬Enclosed (v.version.getD version) v.response proof) →
    (interpret w mode version v s).2 = s
  /-- The result is the same whoever keeps the proofs. -/
  whoever : ∀ w' s', (interpret w' mode version v s').1 = (interpret w mode version v s).1
  /-- It is the same for replies that differ in the proof alone. -/
  whichever : 2 ≤ v.version.getD version → ∀ reply other, v.response = .replied reply →
    ButForProof reply other → ∀ w' s',
      (interpret w' mode version { v with response := .replied other } s').1.2
        = (interpret w mode version v s).1.2
  /-- A reply without an envelope is the value, with all its members. -/
  bare : v.version.getD version < 2 → ∀ reply, v.response = .replied reply →
    (interpret w mode version v s).1.2
      = ⟨if reply.isNull then none else some reply, none, none, false⟩

/-- **A proof is handed over, and the answer is the same without it.** -/
theorem proof_kept_apart (w : World) (mode : Mode) (version : Nat) (v : Visit) (s : Session) :
    Apart w mode version v s where
  handed proof henclosed := by
    rw [interpret_eq]
    unfold handed
    rw [Answer.proofOf?_eq_some_iff.2 henclosed]
    rfl
  quiet hnone := by
    have hproof : Answer.proofOf? (v.version.getD version) v.response = none :=
      Option.eq_none_iff_forall_ne_some.2 fun proof hproof =>
        hnone proof (Answer.proofOf?_eq_some_iff.1 hproof)
    rw [interpret_eq]
    unfold handed
    rw [hproof, Option.toList_none, List.map_nil, List.append_nil]
  whoever w' s' := by
    rw [interpret_eq, interpret_eq]
  whichever enveloped reply other hreply hother w' s' := by
    rw [interpret_eq, interpret_eq, hreply]
    exact (Answer.normalise_congr mode enveloped hother).symm
  bare hbare reply hreply := by
    have hversion : v.version.getD version < Answer.envelopeVersion := hbare
    rw [interpret_eq, hreply]
    dsimp only [Answer.normalise, Answer.unwrap]
    rw [if_pos hversion, if_pos hversion]
    rfl

end Engine

namespace Testimony

/-- A world in which no proof can be kept. -/
def world : World where
  transport := fun _ _ => ⟨.error "connection refused", false⟩
  clock := fun _ => Time.Instant.epoch
  writes := fun _ => true
  credential := fun subject => .error (noCredentialSource subject)
  keepsProof := fun _ _ => false

/-- A refusal with a proof beside it. -/
def reply : Json :=
  .object [("code", .object [("geni_code", .int 12)]), ("output", .string "No such slice"),
    ("proof", .string "signed")]

/-- The URL that the aggregate was called at. -/
def called : Endpoint := ⟨"urn:a", "http://[::2]", none, some 3⟩

/-- A call that was sent elsewhere and refused. -/
def visit : Visit := ⟨⟨"urn:a", "http://[::1]", none, none⟩, some called, true, .replied reply, []⟩

end Testimony

/-- A proof beside a refusal is handed over as that of the URL called, though it cannot be kept,
and the refusal is the same without it; to a call at version 1 the whole reply is the value. -/
theorem proof_kept_apart_refusal :
    (Engine.interpret Testimony.world .strict 2 Testimony.visit
        (Session.start .absent)).2.credentialEvents
      = [.proof Testimony.called (.string "signed") false] ∧
    (Engine.interpret Testimony.world .strict 2
        { Testimony.visit with response := .replied (Testimony.reply.without "proof") }
        (Session.start .absent)).1.2
      = (Engine.interpret Testimony.world .strict 2 Testimony.visit
          (Session.start .absent)).1.2 ∧
    (Engine.interpret Testimony.world .strict 1 { Testimony.visit with called := none }
        (Session.start .absent)).1.2
      = ⟨some Testimony.reply, none, none, false⟩ := by
  have modern := Engine.proof_kept_apart Testimony.world .strict 2 Testimony.visit
    (Session.start .absent)
  have first := Engine.proof_kept_apart Testimony.world .strict 1
    { Testimony.visit with called := none } (Session.start .absent)
  have henclosed : Answer.Enclosed 3 Testimony.visit.response (.string "signed") :=
    .reply (by decide) rfl
  refine ⟨?_, ?_, ?_⟩
  · rw [modern.handed _ henclosed]
    rfl
  · exact modern.whichever (by decide) _ _ rfl (Answer.butForProof_without Testimony.reply) _ _
  · exact first.bare (by decide) _ rfl

/-! ## §3. Whole invocations. -/

/-- The world with another keeper of proofs. -/
def World.keeping (w : World) (keeps : Endpoint → Json → Bool) : World :=
  { w with keepsProof := keeps }

namespace Engine

/-- Nothing but the last stage of an undertaking knows of proofs. -/
theorem undertake_keeping (w : World) (g : Engine) (i : Invocation) (endpoints : List Endpoint)
    (credentials : List Credential) (s : Session) (keeps : Endpoint → Json → Bool) :
    (ExceptT.run (undertake (w.keeping keeps) g i endpoints credentials) s).1
        = (ExceptT.run (undertake w g i endpoints credentials) s).1 ∧
      (ExceptT.run (undertake (w.keeping keeps) g i endpoints credentials) s).2.requests
        = (ExceptT.run (undertake w g i endpoints credentials) s).2.requests := by
  have hagree : agree (w.keeping keeps) g i endpoints = agree w g i endpoints := rfl
  unfold undertake
  rw [hagree, Attempt.run_bind, Attempt.run_bind]
  generalize ExceptT.run (agree w g i endpoints) s = agreed
  obtain ⟨outcome, t⟩ := agreed
  cases outcome with
  | error fault => exact ⟨rfl, rfl⟩
  | ok adopted =>
      obtain ⟨version, message⟩ := adopted
      dsimp only
      rw [Attempt.run_outcome, Attempt.run_outcome]
      cases g.check i version with
      | error fault => exact ⟨rfl, rfl⟩
      | ok _ =>
          have hround : Call.makeRound (w.keeping keeps) (g.itinerary i credentials version)
                endpoints g.settings.workerLimit
              = Call.makeRound w (g.itinerary i credentials version) endpoints
                g.settings.workerLimit := rfl
          dsimp only
          rw [hround, Attempt.run_action, Attempt.run_action]
          generalize Call.makeRound w (g.itinerary i credentials version) endpoints
            g.settings.workerLimit t = round
          obtain ⟨outcome, u⟩ := round
          cases outcome with
          | error fault => exact ⟨rfl, rfl⟩
          | ok visits =>
              dsimp only
              rw [Attempt.run_always, Attempt.run_always, interpret_visits, interpret_visits]
              exact ⟨rfl, rfl⟩

/-- **An invocation does not depend on whether proofs can be kept**: it comes
to the same outcome, and sends the same requests. -/
theorem run_keeping (w : World) (g : Engine) (i : Invocation) (s : Session)
    (keeps : Endpoint → Json → Bool) :
    (ExceptT.run (run (w.keeping keeps) g i) s).1 = (ExceptT.run (run w g i) s).1 ∧
      (ExceptT.run (run (w.keeping keeps) g i) s).2.requests
        = (ExceptT.run (run w g i) s).2.requests := by
  have hletIn : letIn (w.keeping keeps) g i s = letIn w g i s := rfl
  cases admitted : letIn w g i s with
  | error fault =>
      obtain ⟨hother, hlogOther, -⟩ := run_of_refused (hletIn.trans admitted)
      obtain ⟨hown, hlog, -⟩ := run_of_refused admitted
      exact ⟨hother.trans hown.symm, hlogOther.trans hlog.symm⟩
  | ok found =>
      obtain ⟨endpoints, credentials⟩ := found
      rw [run_of_admitted admitted, run_of_admitted (hletIn.trans admitted)]
      exact undertake_keeping w g i endpoints credentials (threshold w g i s) keeps

end Engine

end Federation
