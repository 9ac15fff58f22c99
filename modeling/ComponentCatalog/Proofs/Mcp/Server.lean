import ComponentCatalog.Proofs.Catalog.Steady

namespace ComponentCatalog.Mcp.Server

variable {enabled : List Operation} {c : Catalog} {op : Operation} {given params : Members}
  {id : RequestId} {method name uri normal : String} {resource : Resource}
  {records : List Component}

def message (id : RequestId) : Result → Json
  | .ok v    => response id.toJson v
  | .error e => failureJson id e

theorem answer_of_fits {params : Option Members}
    (hf : (shape method).fits (.object (params.getD []))) :
    answer enabled c id method params =
      ((respond enabled c method (params.getD [])).1,
        message id (respond enabled c method (params.getD [])).2) := by
  simp only [answer, hf, if_true]
  split
  case h_1 h => rw [h, message]
  case h_2 h => rw [h, message]

theorem respond_toolCall (hn : params.lookup "name" = some (.string name))
    (hg : params.lookup "arguments" = some (.object given)) :
    respond enabled c "tools/call" params =
      ((Tools.invoke enabled c name given).1,
        .ok (Tools.result (Tools.invoke enabled c name given).2)) := by
  have hname : Envelope.string? params "name" = some name := by simp [Envelope.string?, hn]
  simp [respond, hname, hg]

theorem invoke_of_not_enabled (h : ∀ op ∈ enabled, op.name ≠ name) :
    Tools.invoke enabled c name given = (c, .error (.unknown name)) := by
  have hf : (Operation.ofName? name).filter enabled.contains = none := by
    rw [Option.filter_eq_none_iff]
    intro op ho hm
    have hn : op.name = name := by simpa using List.find?_some ho
    exact h op (List.contains_iff_mem.mp hm) hn
  simp only [Tools.invoke, hf]

-- Whatever the arguments are.
theorem respond_of_not_enabled (hn : params.lookup "name" = some (.string name))
    (h : ∀ op ∈ enabled, op.name ≠ name) :
    respond enabled c "tools/call" params =
      (c, .ok (Tools.result (.error (.unknown name)))) := by
  have hname : Envelope.string? params "name" = some name := by simp [Envelope.string?, hn]
  simp [respond, hname, invoke_of_not_enabled h]

theorem respond_read (hc : c.Steady records) (hu : params.lookup "uri" = some (.string uri))
    (hn : Url.normalize? uri = some normal) (hr : Resource.ofUri? normal = some resource) :
    (respond enabled c "resources/read" params).2 =
      .ok (contents normal (resource.text records)) := by
  have huri : Envelope.string? params "uri" = some uri := by simp [Envelope.string?, hu]
  obtain ⟨c', hread, -⟩ : ∃ c', c.read resource = (c', .ok (resource.text records)) ∧
      c'.Steady records := Catalog.settles_read c hc
  simp [respond, huri, readResource, hn, Catalog.readUri, hr, hread, Except.mapError]

-- What it takes to get at the catalog.
inductive Consults (enabled : List Operation) : String → Members → Prop
  | resource {params : Members} : Consults enabled "resources/read" params
  | tool {op : Operation} {params : Members} (ho : op ∈ enabled)
    (hn : Envelope.string? params "name" = some op.name) : Consults enabled "tools/call" params

theorem exists_of_invoke (h : (Tools.invoke enabled c name given).1 ≠ c) :
    ∃ op ∈ enabled, op.name = name := by
  by_contra hn
  have ho : ∀ op ∈ enabled, op.name ≠ name := fun op ho he => hn ⟨op, ho, he⟩
  exact h (by rw [invoke_of_not_enabled ho])

theorem consults_of_respond (h : (respond enabled c method params).1 ≠ c) :
    Consults enabled method params := by
  unfold respond at h
  split at h
  case h_4 =>
    obtain ⟨op, ho, hn⟩ : ∃ op ∈ enabled, op.name = (Envelope.string? params "name").getD "" :=
      exists_of_invoke h
    refine .tool ho ?_
    cases hs : Envelope.string? params "name" <;> rw [hs] at hn
    case none   => exact absurd hn (by cases op <;> decide)
    case some s => exact congrArg some hn.symm
  case h_7 => exact .resource
  all_goals exact absurd rfl h

theorem consults_of_answer {params : Option Members}
    (h : (answer enabled c id method params).1 ≠ c) :
    Consults enabled method (params.getD []) := by
  by_cases hf : (shape method).fits (.object (params.getD []))
  case pos => exact consults_of_respond (by rwa [answer_of_fits hf] at h)
  case neg =>
    rw [answer, if_neg hf] at h
    exact absurd rfl h

end ComponentCatalog.Mcp.Server
