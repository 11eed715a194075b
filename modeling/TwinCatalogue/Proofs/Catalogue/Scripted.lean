import TwinCatalogue.Proofs.Catalogue.World
import TwinCatalogue.Script

/-! Catalogues behind a script, which says of each call whether it fails. They are worlds that
hold both catalogues, with or without replies that get lost. -/

namespace TwinCatalogue

/-- The reply to a call that a script answers, where the central catalogue can only hand out what
it holds. -/
def Catalogues.reply (c : Catalogues) (call : Call) (scripted : Reply) : Reply :=
  match call, scripted with
  | .store .centralSide (.get kind id) _, .ok _ =>
    match c.centralSide.held kind id with
    | some stored => .ok stored.found
    | none => .error (.status 404 "Not Found")
  | _, reply => reply

/-- What the catalogues hold after a call and its reply. `lossy` tells whether central writes are
carried out of which the reply is lost. -/
def Catalogues.afterReply (c : Catalogues) (lossy : Bool) (call : Call) : Reply → Catalogues
  | .ok _ => c.write call
  | .error error => if lossy && call.isCentral && error.lost then c.write call else c

def CatalogueWorld.scripted (lossy : Bool) : CatalogueWorld (Catalogues × Script) where
  answer call s :=
    let (reply, rest) := Script.world.answer call s.2
    (s.1.reply call reply, s.1.afterReply lossy call (s.1.reply call reply), rest)
  mint s :=
    let (reply, rest) := Script.world.mint s.2
    (reply, s.1, rest)
  draw s := (0, s)
  catalogues s := s.1
  minted _ := rfl
  drawn _ := rfl
  done call s doc h := by
    dsimp only at h ⊢
    rw [h]
    rfl
  failed call s error h := by
    dsimp only at h ⊢
    rw [h, Catalogues.afterReply]
    split
    · rename_i hlost
      simp only [Bool.and_eq_true] at hlost
      exact Or.inr ⟨hlost.1.2, hlost.2, rfl⟩
    · exact Or.inl rfl
  fetched kind id token s doc h := by
    dsimp only at h
    cases hscript : (Script.world.answer (.store .centralSide (.get kind id) token) s.2).1 with
    | error error =>
      rw [hscript] at h
      exact nomatch h
    | ok scripted =>
      rw [hscript, Catalogues.reply] at h
      cases hheld : s.1.centralSide.held kind id with
      | none =>
        rw [hheld] at h
        exact nomatch h
      | some stored =>
        rw [hheld] at h
        exact ⟨stored, rfl, (Except.ok.inj h).symm⟩

theorem CatalogueWorld.scripted_reliable : (scripted false).Reliable := by
  intro call s error h
  change (Catalogues.reply _ _ _) = _ at h
  change Catalogues.afterReply _ _ _ (Catalogues.reply _ _ _) = _
  rw [h]
  rfl

end TwinCatalogue
