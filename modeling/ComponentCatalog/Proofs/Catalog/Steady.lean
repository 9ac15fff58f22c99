import ComponentCatalog.Mcp.Server
import ComponentCatalog.Proofs.Catalog.Keeper

namespace ComponentCatalog

open Mcp (Members RequestId)

namespace Catalog

variable {records : List Component} {c : Catalog} {α β : Type} {x : α} {name uri method : String}
  {arguments : Json} {request : Request} {resource : Resource} {enabled : List Operation}
  {given params : Members}

-- Nothing is kept yet, or the records that each load brings.
inductive Steady (records : List Component) : Catalog → Prop
  | intro (k : Keeper) (brings : ∀ n, k.loader.taken n k.disk = .ok records)
    (kept : k.kept = none ∨ k.kept = some records) : Steady records k.catalog

theorem exists_steady_cold (dir root : Path) (d : Disk) :
    ∃ records, Steady records (.cold (.standard dir root) d) := by
  have hb : ∃ records, ∀ n, (Loader.standard dir root).taken n d = .ok records := by
    simp only [Loader.taken, Loader.standard]
    cases Scan.scan? d Scan.defaultExtensions dir
    case none    => exact ⟨_, fun _ => rfl⟩
    case some ps => exact ⟨_, fun _ => rfl⟩
  obtain ⟨records, h⟩ := hb
  exact ⟨records, .intro (Keeper.start (.standard dir root) d) h (.inl rfl)⟩

-- The answer is the same for every such catalog, which stays one of them.
def Settles (records : List Component) (f : Catalog → Catalog × α) (x : α) : Prop :=
  ∀ c, Steady records c → ∃ c', f c = (c', x) ∧ Steady records c'

theorem settles_const : Settles records (fun c => (c, x)) x :=
  fun c hc => ⟨c, rfl, hc⟩

theorem Settles.steady {f : Catalog → Catalog × α} (h : Settles records f x)
    (hc : Steady records c) : Steady records (f c).1 := by
  have ⟨_, hf, hc'⟩ := h c hc
  rwa [hf]

theorem Settles.answer {f : Catalog → Catalog × α} (h : Settles records f x)
    (hc : Steady records c) : (f c).2 = x := by
  have ⟨_, hf, _⟩ := h c hc
  rw [hf]

theorem Settles.map {f : Catalog → Catalog × α} (h : Settles records f x) (g : α → β) :
    Settles records (fun c => ((f c).1, g (f c).2)) (g x) := by
  intro c hc
  have ⟨c', hf, hc'⟩ := h c hc
  exact ⟨c', by simp only [hf], hc'⟩

theorem settles_fetch : Settles records fetch (.ok records) := by
  rintro _ ⟨k, hb, hk⟩
  rw [Keeper.fetch_catalog]
  rcases hk with hk | hk
  case inl =>
    refine ⟨k.take.1.catalog, by simp [Keeper.take, hk, hb], .intro _ ?_ ?_⟩
    · simpa [Keeper.take, hk] using hb
    · simp [Keeper.take, hk, hb, Except.toOption]
  case inr =>
    rw [Keeper.take_of_kept hk]
    exact ⟨k.catalog, rfl, .intro k hb (.inr hk)⟩

theorem settles_run : Settles records (run · request) (reply records request) := by
  intro c hc
  have ⟨c', hf, hc'⟩ := settles_fetch c hc
  cases request
  case designTokens    => exact ⟨c, rfl, hc⟩
  case components      => exact ⟨c', by simp only [run, hf], hc'⟩
  case componentByName => exact ⟨c', by simp only [run, hf], hc'⟩

theorem exists_settles_call : ∃ x, Settles records (call · name arguments) x := by
  cases hr : request? name arguments
  case error e    => exact ⟨.error e, fun c hc => ⟨c, by simp only [call, hr], hc⟩⟩
  case ok request =>
    refine ⟨reply records request, fun c hc => ?_⟩
    simp only [call, hr]
    exact settles_run c hc

theorem settles_read : Settles records (read · resource) (.ok (resource.text records)) := by
  intro c hc
  have ⟨c', hf, hc'⟩ := settles_fetch c hc
  exact ⟨c', by simp only [Catalog.read, hf]; rfl, hc'⟩

theorem exists_settles_readUri : ∃ x, Settles records (readUri · uri) x := by
  cases hu : Resource.ofUri? uri
  case none          =>
    exact ⟨.error (.unknown uri), fun c hc => ⟨c, by simp only [readUri, hu], hc⟩⟩
  case some resource =>
    refine ⟨.ok (resource.text records), fun c hc => ?_⟩
    obtain ⟨c', hr, hc'⟩ : ∃ c', c.read resource = (c', .ok (resource.text records)) ∧
        Steady records c' := settles_read c hc
    exact ⟨c', by simp only [readUri, hu, hr]; rfl, hc'⟩

end Catalog

namespace Mcp

open Catalog (Settles)

variable {records : List Component} {name uri method : String} {enabled : List Operation}
  {given params : Members} {id : RequestId}

theorem exists_settles_invoke : ∃ x, Settles records (Tools.invoke enabled · name given) x := by
  cases ho : (Operation.ofName? name).filter enabled.contains
  case none    =>
    exact ⟨.error (.unknown name), fun c hc => ⟨c, by simp only [Tools.invoke, ho], hc⟩⟩
  case some op =>
    cases ha : Tools.arguments op given
    case error e =>
      exact ⟨.error (.unreadable op e), fun c hc => ⟨c, by simp only [Tools.invoke, ho, ha], hc⟩⟩
    case ok ms   =>
      have ⟨x, hx⟩ : ∃ x, Settles records (Catalog.call · op.name (.object ms)) x :=
        Catalog.exists_settles_call
      refine ⟨x.mapError (.refused op), fun c hc => ?_⟩
      have ⟨c', hcall, hc'⟩ := hx c hc
      refine ⟨c', ?_, hc'⟩
      simp only [Tools.invoke, ho, ha, hcall]
      cases x <;> rfl

theorem exists_settles_toolCall :
    ∃ x : Server.Result, Settles records
      (fun c => ((Tools.invoke enabled c name given).1,
        .ok (Tools.result (Tools.invoke enabled c name given).2))) x := by
  have ⟨x, hx⟩ : ∃ x, Settles records (Tools.invoke enabled · name given) x :=
    exists_settles_invoke
  exact ⟨.ok (Tools.result x), hx.map fun r => Except.ok (Tools.result r)⟩

theorem exists_settles_readResource : ∃ x, Settles records (Server.readResource · uri) x := by
  cases hu : Url.normalize? uri
  case none      =>
    exact ⟨.error .invalidParams, fun c hc => ⟨c, by simp only [Server.readResource, hu], hc⟩⟩
  case some uri' =>
    have ⟨x, hx⟩ : ∃ x, Settles records (Catalog.readUri · uri') x := Catalog.exists_settles_readUri
    refine ⟨(x.map (Server.contents uri')).mapError .resource, fun c hc => ?_⟩
    have ⟨c', hread, hc'⟩ := hx c hc
    refine ⟨c', ?_, hc'⟩
    simp only [Server.readResource, hu, hread]
    cases x <;> rfl

theorem exists_settles_respond :
    ∃ x, Settles records (Server.respond enabled · method params) x := by
  unfold Server.respond
  split
  case h_1 => exact ⟨_, Catalog.settles_const⟩
  case h_2 => exact ⟨_, Catalog.settles_const⟩
  case h_3 => exact ⟨_, Catalog.settles_const⟩
  case h_4 => exact exists_settles_toolCall
  case h_5 => exact ⟨_, Catalog.settles_const⟩
  case h_6 => exact ⟨_, Catalog.settles_const⟩
  case h_7 => exact exists_settles_readResource
  case h_8 => exact ⟨_, Catalog.settles_const⟩

theorem exists_settles_answer {params : Option Members} :
    ∃ x, Settles records (Server.answer enabled · id method params) x := by
  have ⟨x, hx⟩ : ∃ x, Settles records (Server.respond enabled · method (params.getD [])) x :=
    exists_settles_respond
  by_cases hf : (Server.shape method).fits (.object (params.getD []))
  case pos =>
    cases x
    case ok v =>
      refine ⟨response id.toJson v, fun c hc => ?_⟩
      have ⟨c', hr, hc'⟩ := hx c hc
      exact ⟨c', by simp only [Server.answer, hf, if_true, hr], hc'⟩
    case error e =>
      refine ⟨Server.failureJson id e, fun c hc => ?_⟩
      have ⟨c', hr, hc'⟩ := hx c hc
      exact ⟨c', by simp only [Server.answer, hf, if_true, hr], hc'⟩
  case neg =>
    refine ⟨Server.failureJson id .invalidParams, fun c hc => ⟨c, ?_, hc⟩⟩
    simp only [Server.answer, hf]
    rfl

end Mcp
end ComponentCatalog
