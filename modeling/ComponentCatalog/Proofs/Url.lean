import ComponentCatalog.Proofs.Text.Split
import ComponentCatalog.Url
import Mathlib.Data.List.TakeDrop
import Mathlib.Data.List.TakeWhile
import Mathlib.Data.Option.Basic

namespace ComponentCatalog.Url

open Text

variable {scheme host s : List Char} {c d : Char} {p : Char → Bool} {stops : String}

-- The characters of a host, which may be percent encoded in it.
def inHost (c : Char) : Bool :=
  0x20 < c.toNat && !isForbiddenInHost c

-- A scheme in small letters that is followed by any host.
structure Plain (scheme : List Char) : Prop where
  head   : scheme.head?.any Char.isAlpha
  chars  : ∀ c ∈ scheme, isSchemeChar c
  lower  : scheme.map Char.toLower = scheme
  file   : isFile scheme = false
  common : isSpecial scheme = false

theorem ne_of_inHost (h : inHost c) (hd : isForbiddenInHost d) : c ≠ d := by
  rintro rfl
  simp [inHost, hd] at h

theorem lt_of_isSchemeChar (h : isSchemeChar c) : 0x20 < c.toNat := by
  have hn : ∀ n ≤ 0x20, isSchemeChar (Char.ofNat n) = false := by decide
  refine Nat.lt_of_not_le fun hle => ?_
  rw [← Char.ofNat_toNat c, hn _ hle] at h
  cases h

theorem span_of_all (h : ∀ c ∈ s, p c) : s.span p = (s, []) := by
  rw [List.span_eq_takeWhile_dropWhile, List.takeWhile_eq_self_iff.mpr h,
    List.dropWhile_eq_nil_iff.mpr h]

theorem trimBy_eq_self (h : ∀ c ∈ s, p c = false) : trimBy p s = s := by
  have hd : ∀ t : List Char, (∀ c ∈ t, p c = false) → t.dropWhile p = t := by
    intro t ht
    cases t
    case nil  => rfl
    case cons => rw [List.dropWhile_cons_of_neg (by simp [ht])]
  rw [trimBy, hd s h, hd _ (by simpa using h), List.reverse_reverse]

theorem clean_eq_self (h : ∀ c ∈ s, 0x20 < c.toNat) : clean s = s := by
  have hf : s.filter (fun c => c ≠ '\t' ∧ c ≠ '\n' ∧ c ≠ '\r') = s := by
    refine List.filter_eq_self.mpr fun c hc => decide_eq_true ⟨?_, ?_, ?_⟩
    all_goals
      rintro rfl
      exact absurd (h _ hc) (by decide)
  rw [clean, trimBy_eq_self fun c hc => by simpa using h c hc, hf]

theorem cutLast?_eq_none (h : d ∉ s) : cutLast? d s = none := by
  induction s
  case nil         => rfl
  case cons c s hi =>
    rw [List.mem_cons, not_or] at h
    simp [cutLast?, hi h.2, Ne.symm h.1]

theorem cutPort_eq (h : ':' ∉ s) {inside : Bool} : cutPort inside s = (s, []) := by
  induction s generalizing inside
  case nil         => rfl
  case cons c s hi =>
    rw [List.mem_cons, not_or] at h
    simp [cutPort, hi h.2, Ne.symm h.1]

theorem scheme?_of_plain (hs : Plain scheme) : scheme? (scheme ++ ':' :: s) = some (scheme, s) := by
  have hh : (scheme ++ ':' :: s).head?.any Char.isAlpha := by
    cases scheme
    case nil  => cases hs.head
    case cons => exact hs.head
  have hc : isSchemeChar ':' = false := by decide
  have ht : (scheme ++ ':' :: s).takeWhile isSchemeChar = scheme := by
    rw [takeWhile_append_cons hc, List.takeWhile_eq_self_iff.mpr hs.chars]
  have hd : (scheme ++ ':' :: s).dropWhile isSchemeChar = ':' :: s := by
    rw [dropWhile_append_cons hc, List.dropWhile_eq_nil_iff.mpr hs.chars, List.nil_append]
  simp only [scheme?, hh, hd, ht, hs.lower]
  rfl

section Host

variable (hn : host ≠ []) (hh : ∀ c ∈ host, inHost c)

include hh

theorem not_mem_host (hd : isForbiddenInHost d) : d ∉ host :=
  fun hm => ne_of_inHost (hh d hm) hd rfl

theorem upTo_host (hs : ∀ d ∈ stops.toList, isForbiddenInHost d) :
    upTo stops host = (host, []) := by
  refine span_of_all fun c hc => ?_
  rw [Bool.not_eq_true', ← Bool.not_eq_true, List.contains_iff_mem]
  exact fun hm => ne_of_inHost (hh c hc) (hs c hm) rfl

theorem host?_eq : host? false host = some (percentEncode visible host) := by
  have hf : host.any isForbiddenInHost = false := by
    rw [List.any_eq_false]
    intro c hc
    have hi := hh c hc
    simp_all [inHost]
  unfold host?
  split
  case h_1 => exact absurd List.mem_cons_self (not_mem_host hh (by decide))
  case h_2 => simp [hf]

theorem clean_host (hs : Plain scheme) :
    clean (scheme ++ ':' :: '/' :: '/' :: host) = scheme ++ ':' :: '/' :: '/' :: host := by
  refine clean_eq_self (List.forall_mem_append.mpr ⟨?_, ?_⟩)
  · exact fun c hc => lt_of_isSchemeChar (hs.chars c hc)
  · simp only [List.forall_mem_cons]
    refine ⟨by decide, by decide, by decide, fun c hc => ?_⟩
    have hi := hh c hc
    simp_all [inHost]

theorem span_slashes (hd : isForbiddenInHost d) (hn : '/' ≠ d) :
    ('/' :: '/' :: host).span (· != d) = ('/' :: '/' :: host, []) := by
  refine span_of_all ?_
  simp only [List.forall_mem_cons]
  exact ⟨bne_iff_ne.mpr hn, bne_iff_ne.mpr hn,
    fun c hc => bne_iff_ne.mpr (ne_of_inHost (hh c hc) hd)⟩

include hn

theorem authority?_host (hs : isSpecial scheme = false) :
    authority? scheme true host = some (percentEncode visible host, []) := by
  have ha : cutLast? '@' host = none := cutLast?_eq_none (not_mem_host hh (by decide))
  have hp : cutPort false host = (host, []) := cutPort_eq (not_mem_host hh (by decide))
  have hu : upTo "\\" [] = ([], []) := rfl
  have he : host.isEmpty = false := by simpa using hn
  simp [authority?, ha, hp, hu, he, hs, host?_eq hh, port?, guard]

theorem ofHierarchy?_host (hs : isSpecial scheme = false) :
    ofHierarchy? scheme true ('/' :: '/' :: host) = some (percentEncode visible host, []) := by
  have ha : after? "//".toList ('/' :: '/' :: host) = some host := rfl
  have hu : upTo "/" host = (host, []) := upTo_host hh (List.all_eq_true.mp (by decide))
  simp only [ofHierarchy?, hs, ha, hu, Bool.false_eq_true, if_false, Option.bind_eq_bind,
    Option.bind_some, List.isEmpty_nil, Bool.and_true, authority?_host hn hh hs]
  rfl

theorem parse?_host (hs : Plain scheme) :
    parse? (String.ofList (scheme ++ ':' :: '/' :: '/' :: host)) =
      some ⟨scheme, some (percentEncode visible host), [], none, none⟩ := by
  have hp : "//".toList.isPrefixOf ('/' :: '/' :: host) := rfl
  simp only [parse?, String.toList_ofList, clean_host hh hs, scheme?_of_plain hs,
    Option.bind_eq_bind, Option.bind_some, span_slashes hh (by decide : isForbiddenInHost '#')
    (by decide), span_slashes hh (by decide : isForbiddenInHost '?') (by decide), hs.file,
    hs.common, hp, List.isEmpty_nil, Bool.and_self, Bool.or_true, Bool.false_eq_true, if_false,
    if_true, ofHierarchy?_host hn hh hs.common]
  rfl

-- The normal form has the same scheme.
theorem normalize?_host (hs : Plain scheme) :
    normalize? (String.ofList (scheme ++ ':' :: '/' :: '/' :: host)) =
      some (String.ofList (scheme ++ ':' :: '/' :: '/' :: percentEncode visible host)) := by
  rw [normalize?, parse?_host hn hh hs, Option.map_some, toString]
  simp [beforePath]

end Host

theorem slash_not_mem_percentByte (b : UInt8) : '/' ∉ percentByte b := by
  have h : ∀ n < 256, '/' ∉ percentByte (UInt8.ofNat n) := by decide +kernel
  have hb := h b.toNat b.toNat_lt
  rwa [UInt8.ofNat_toNat] at hb

theorem slash_not_mem_percentEncode (h : '/' ∉ s) : '/' ∉ percentEncode p s := by
  rw [percentEncode, List.mem_flatMap]
  rintro ⟨c, hc, hm⟩
  split at hm
  case isTrue =>
    cases List.mem_singleton.mp hm
    exact h hc
  case isFalse =>
    obtain ⟨b, -, hb⟩ := List.mem_flatMap.mp hm
    exact slash_not_mem_percentByte b hb

theorem percentEncode_ne_nil (h : s ≠ []) : percentEncode p s ≠ [] := by
  obtain ⟨c, cs, rfl⟩ := List.exists_cons_of_ne_nil h
  obtain ⟨b, bs, hb⟩ := List.exists_cons_of_ne_nil (String.utf8EncodeChar_ne_nil (c := c))
  rw [percentEncode, List.flatMap_cons, utf8Bytes, hb]
  split <;> simp [percentByte]

end ComponentCatalog.Url
