import ComponentCatalog.Operation.Call
import ComponentCatalog.Proofs.Component.Document

namespace ComponentCatalog

open Json (Plain)

variable {n : Nat}

namespace DesignTokens

theorem plain_group {tokens : List (String × String)} (hd : (tokens.map Prod.fst).Nodup) :
    Plain (n + 1) (group tokens) := by
  refine .object ?_ fun m hm => ?_
  · simpa [Function.comp_def] using hd
  · have ⟨_, _, he⟩ := List.mem_map.mp hm
    exact he ▸ .string

theorem plain_colors : Plain 2 colors := by
  refine .object (by simp) ?_
  simp only [List.forall_mem_cons]
  exact ⟨plain_group (by decide), plain_group (by decide), .string, .string, .string, by simp⟩

theorem plain_typography :
    Plain 2 (.object [("fontFamily", .string "Inter, sans-serif"), ("fontSize", fontSize)]) := by
  refine .object (by simp) ?_
  simp only [List.forall_mem_cons]
  exact ⟨.string, plain_group (by decide), by simp⟩

theorem plain_toJson : Plain 3 toJson := by
  refine .object (by simp) ?_
  simp only [List.forall_mem_cons]
  exact ⟨plain_colors, plain_group (by decide), plain_typography, plain_group (by decide), by simp⟩

end DesignTokens

theorem Guidelines.plain_toJson {g : Guidelines} : Plain (n + 2) g.toJson := by
  refine .object (by simp) ?_
  simp only [List.forall_mem_cons]
  exact ⟨.string, .string, Json.plain_ofStrings, by simp⟩

namespace Reply

variable {reply : Reply}

theorem exists_plain : ∃ n ≤ Json.Read.depthLimit, Plain n reply.toJson := by
  cases reply
  case component c => exact ⟨3, by decide, c.plain_toJson⟩
  case tokens      => exact ⟨3, by decide, DesignTokens.plain_toJson⟩
  case listing cs  =>
    refine ⟨5, by decide, .object (by simp) ?_⟩
    simp only [List.forall_mem_cons]
    exact ⟨Component.plain_toJson_all, Guidelines.plain_toJson, by simp⟩

-- In every style.
theorem readBytes_render {style : Json.Style} :
    Json.readBytes (reply.toJson.render style).toUTF8 = .ok reply.toJson.raw := by
  have ⟨_, hn, hp⟩ : ∃ n ≤ Json.Read.depthLimit, Plain n reply.toJson := exists_plain
  exact Json.readBytes_render hp hn

end Reply
end ComponentCatalog
