import TwinCatalogue.Proofs.Catalogue.Scripted
import TwinCatalogue.Proofs.Item.Holdings

/-! Worlds that hold the two catalogues and one resource server. In such a world no failed call is
carried out, and what a run makes of its holdings can be read off the events. -/

namespace TwinCatalogue

/-- A world with holdings. Look-ups give no address but `url`, and an entity that the central
catalogue is asked for is the one that it holds. -/
structure ItemWorld (σ : Type) extends World σ where
  url : String
  holdings : σ → Holdings
  minted : ∀ s, holdings (mint s).2 = holdings s
  drawn : ∀ s, holdings (draw s).2 = holdings s
  answered : ∀ call s, holdings (answer call s).2 =
    (holdings s).apply url (.called call (answer call s).1)
  resolved : ∀ id token s related found, (answer (Adapter.lookup id token) s).1 = .ok related →
    Adapter.registrationUrl related = some found → found = url
  fetched : ∀ kind id token s doc,
    (answer (.store .centralSide (.get kind id) token) s).1 = .ok doc →
      ∃ stored, (holdings s).catalogues.centralSide.held kind id = some stored ∧ doc = stored.found

namespace ItemWorld

variable {σ : Type} {w : ItemWorld σ} {s t : σ} {events : List Event}

theorem holdings_of_leads (h : w.toWorld.Leads s events t) :
    w.holdings t = (w.holdings s).after w.url events := by
  induction h with
  | refl => rfl
  | called call _ ih => rw [ih, w.answered, Holdings.after_cons]
  | @minted s _ _ _ ih =>
    rw [ih, w.minted]
    rfl
  | drawn _ ih => rw [ih, w.drawn]
  | noted he _ ih => rw [ih, Holdings.after_cons, Holdings.apply_of_not_isCall he]

theorem resolves_of_leads (h : w.toWorld.Leads s events t) : Event.Resolves w.url events := by
  intro id token related found hin hfound
  induction h with
  | refl => exact absurd hin List.not_mem_nil
  | @called s _ _ call _ ih =>
    rcases List.mem_cons.mp hin with he | hin
    · obtain ⟨rfl, hreply⟩ := Event.called.inj he
      exact w.resolved id token s related found hreply.symm hfound
    · exact ih hin
  | minted _ ih =>
    rcases List.mem_cons.mp hin with he | hin
    · exact nomatch he
    · exact ih hin
  | drawn _ ih => exact ih hin
  | noted he _ ih =>
    rcases List.mem_cons.mp hin with rfl | hin
    · exact nomatch he
    · exact ih hin

/-- The two catalogues of a world that also has a resource server. -/
def catalogueWorld (w : ItemWorld σ) : CatalogueWorld σ where
  toWorld := w.toWorld
  catalogues s := (w.holdings s).catalogues
  minted s := congrArg Holdings.catalogues (w.minted s)
  drawn s := congrArg Holdings.catalogues (w.drawn s)
  done call s doc h := by
    rw [w.answered, h, Holdings.catalogues_apply_ok]
  failed call s error h := by
    rw [w.answered, h, Holdings.apply_error]
    exact Or.inl rfl
  fetched := w.fetched

end ItemWorld

/-- The reply to a call that a script answers, where look-ups give the address `url` and the
central catalogue can only hand out what it holds. -/
def Holdings.reply (url : String) (h : Holdings) (call : Call) (scripted : Reply) : Reply :=
  match call, scripted with
  | .store .localSide (.related _ _ _) _, .ok _ =>
    .ok (Document.empty.insert Adapter.urlKey (.string url))
  | call, reply => h.catalogues.reply call reply

theorem Adapter.registrationUrl_insert {url found : String}
    (h : registrationUrl (Document.empty.insert urlKey (.string url)) = some found) :
    found = url := by
  rw [registrationUrl, urlMember, Document.get?_insert, if_pos rfl] at h
  exact (Option.some.inj (Option.filter_eq_some_iff.mp h).1).symm

/-- A resource server and two catalogues behind a script, which says of each call whether it
fails. -/
def ItemWorld.scripted (url : String) : ItemWorld (Holdings × Script) where
  answer call s :=
    let (scripted, rest) := Script.world.answer call s.2
    let reply := s.1.reply url call scripted
    (reply, s.1.apply url (.called call reply), rest)
  mint s :=
    let (reply, rest) := Script.world.mint s.2
    (reply, s.1, rest)
  draw s := (0, s)
  url := url
  holdings s := s.1
  minted _ := rfl
  drawn _ := rfl
  answered _ _ := rfl
  resolved id token s related found h hfound := by
    dsimp only at h
    cases hscript : (Script.world.answer (Adapter.lookup id token) s.2).1 with
    | error error =>
      rw [hscript] at h
      exact nomatch h
    | ok scripted =>
      rw [hscript] at h
      obtain rfl := Except.ok.inj h
      exact Adapter.registrationUrl_insert hfound
  fetched kind id token s doc h :=
    (CatalogueWorld.scripted false).fetched kind id token (s.1.catalogues, s.2) doc h

end TwinCatalogue
