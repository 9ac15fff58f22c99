import ComponentCatalog.Proofs.Http.History

namespace ComponentCatalog.Http

namespace PathTemplate

variable {cs : List Char} {text : String}

theorem written_of_plain (hb : '\x7b' ∉ cs) : written cs.length cs = cs.map .plain := by
  induction cs
  case nil          => rfl
  case cons c cs hi =>
    rw [List.mem_cons, not_or] at hb
    simp [written, Ne.symm hb.1, hi hb.2]

theorem ofString?_of_plain (hh : text.toList.head? = some '/') (hb : '\x7b' ∉ text.toList) :
    ofString? text = .ok ⟨text, text.toList.map .inl⟩ := by
  have hn : names (text.toList.map .plain) = [] := by simp [names]
  have hd : duplicates [] = [] := by simp [duplicates]
  have hp : (text.toList.map Written.plain).mapM part = .ok (text.toList.map .inl) := by
    generalize text.toList = cs
    induction cs
    case nil          => rfl
    case cons c cs hi => rw [List.map_cons, List.mapM_cons, hi]; rfl
  have hw := written_of_plain hb
  simp [ofString?, hh, hw, hp, hn, hd, bind, Except.bind, pure, Except.pure]

end PathTemplate

namespace Transport

variable {t : Transport} {s : Shared} {x : Session} {r : Request} {session : String}

theorem handlePost_enabled : (t.handlePost s session r).1.enabled = s.enabled := by
  unfold handlePost
  split <;> rfl

theorem handle_enabled : (t.handle s x r).1.enabled = s.enabled := by
  unfold handle
  split
  case h_1 => rfl
  case h_2 =>
    split
    case isTrue  => rfl
    case isFalse =>
      split
      case h_1 => exact handlePost_enabled
      all_goals rfl

end Transport

namespace App

variable {a b c : App} {fresh : String} {r : Request} {h : Handle} {v : RawJson} {rs : Arrivals}

-- An application that has just been created and started.
theorem eq_of_create {settings : Settings} {enabled : List Operation} {catalog : Catalog}
    (hc : create settings enabled catalog = .ok b) (hr : b.run = .ok a) :
    a = {
      path      := a.path
      transport := ⟨settings.allowedHosts, settings.allowedOrigins, settings.jsonResponse⟩
      shared    := ⟨enabled, catalog⟩
      gateway   := ⟨.empty, true⟩ } := by
  rw [create] at hc
  cases hp : PathTemplate.ofString? settings.path <;> rw [hp] at hc <;> cases hc
  cases hr
  rfl

-- What no request changes.
structure SameSetup (a b : App) : Prop where
  path      : a.path = b.path
  transport : a.transport = b.transport
  enabled   : a.shared.enabled = b.shared.enabled

theorem SameSetup.refl : SameSetup a a :=
  ⟨rfl, rfl, rfl⟩

theorem SameSetup.trans (h₁ : SameSetup a b) (h₂ : SameSetup b c) : SameSetup a c :=
  ⟨h₁.path.trans h₂.path, h₁.transport.trans h₂.transport, h₁.enabled.trans h₂.enabled⟩

theorem SameSetup.symm (h : SameSetup a b) : SameSetup b a :=
  ⟨h.path.symm, h.transport.symm, h.enabled.symm⟩

theorem sameSetup_resume : SameSetup (a.resume h r v).1 a := by
  unfold resume
  split
  case h_1 => exact .refl
  case h_2 => exact .refl
  case h_3 x _ _ =>
    have he : (a.transport.handle a.shared x r).1.enabled = a.shared.enabled :=
      Transport.handle_enabled
    split
    case h_1 hh => exact ⟨rfl, rfl, by simpa [hh] using he⟩
    case h_2 hh => exact ⟨rfl, rfl, by simpa [hh] using he⟩

theorem sameSetup_start : SameSetup (a.start fresh r).1 a := by
  unfold start
  split
  case h_1 => exact .refl
  case h_2 => exact ⟨rfl, rfl, Transport.handle_enabled⟩

theorem sameSetup_multiplex : SameSetup (a.multiplex fresh r).1 a := by
  cases hp : payload r
  case error => rw [multiplex, hp]; exact .refl
  case ok v  =>
    rw [multiplex_of_ok hp]
    cases a.route r v
    case resume h => exact sameSetup_resume
    case start    => exact sameSetup_start
    all_goals exact .refl

theorem sameSetup_handle : SameSetup (a.handle fresh r).1 a := by
  unfold handle
  repeat' split
  case isTrue.isTrue => exact sameSetup_multiplex
  all_goals exact .refl

theorem sameSetup_serve : SameSetup (a.serve rs) a := by
  induction rs generalizing a
  case nil          => exact .refl
  case cons x rs hi => exact hi.trans sameSetup_multiplex

end App
end ComponentCatalog.Http
