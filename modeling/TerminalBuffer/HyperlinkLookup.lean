/-
Reading the hyperlink registry back, and the order of `_PruneHyperlinks`.

The renderer and the exporters turn the 16-bit id a cell carries back into its link:
`GetHyperlinkUriFromId` reads `_hyperlinkMap` with `at`, which throws for an id the map does
not hold, and `GetCustomIdFromId` returns the first custom id filed under the id, or nothing.
A link is registered by handing out an id with `GetHyperlinkId` and filing the URI under it
with `AddHyperlinkToMap`.  While the registry is fresh, what was registered reads back: the
URI, and the key the custom id was filed under, or nothing for a link without one
(`getHyperlinkId_reads_back`).

`_PruneHyperlinks` removes the ids left after its scan in the order its
`std::unordered_set` iterates them, which the standard leaves open.  Removals of two ids
touch different entries of either map, so they commute (`removeHyperlinkFromMap_comm`),
and the pruned buffer is the same in every order (`pruneHyperlinksIn_eq`).
-/
import TerminalBuffer.Registry
import TerminalBuffer.Links

namespace TerminalBuffer

/-! ### The two maps -/

theorem lookup_cons_ite {β : Type} (p : UInt16 × β) (l : List (UInt16 × β)) (k : UInt16) :
    (p :: l).lookup k = if k = p.1 then some p.2 else l.lookup k := by
  by_cases h : k = p.1
  · rw [if_pos h, h]; exact List.lookup_cons_self
  · rw [if_neg h, List.lookup_cons, beq_false_of_ne h]

theorem lookup_assocSet {β : Type} (l : List (UInt16 × β)) (k k' : UInt16) (v : β) :
    (assocSet l k v).lookup k' = if k' = k then some v else l.lookup k' := by
  induction l with
  | nil => simp only [assocSet, lookup_cons_ite, List.lookup_nil]
  | cons p l ih =>
    by_cases hp : p.1 = k
    · by_cases h : k' = k <;> simp [assocSet, lookup_cons_ite, hp, h]
    · by_cases h : k' = p.1
      · simp [assocSet, lookup_cons_ite, hp, h]
      · simp [assocSet, lookup_cons_ite, hp, h, ih]

theorem lookup_assocErase {β : Type} (l : List (UInt16 × β)) (k k' : UInt16) :
    (assocErase l k).lookup k' = if k' = k then none else l.lookup k' := by
  induction l with
  | nil => simp [assocErase]
  | cons p l ih =>
    unfold assocErase at ih ⊢
    by_cases hp : p.1 = k
    · by_cases h : k' = k
      · subst h; simp [List.filter_cons, lookup_cons_ite, hp, ih]
      · simp [List.filter_cons, lookup_cons_ite, hp, h, ih]
    · by_cases h : k' = p.1
      · simp [List.filter_cons, lookup_cons_ite, hp, h]
      · simp [List.filter_cons, lookup_cons_ite, hp, h, ih]

/-- With the filed ids distinct, the entry filed under an id is the first one holding it. -/
theorem find?_snd_of_mem {l : List (String × UInt16)} (hd : (l.map (·.2)).Nodup) {k : String}
    {v : UInt16} (hm : (k, v) ∈ l) : l.find? (·.2 == v) = some (k, v) := by
  induction l with
  | nil => exact absurd hm (List.not_mem_nil _)
  | cons p l ih =>
    rw [List.map_cons, List.nodup_cons] at hd
    rcases List.mem_cons.1 hm with rfl | hm
    · simp
    · have hne : p.2 ≠ v := fun e => hd.1 (e ▸ List.mem_map_of_mem _ hm)
      rw [List.find?_cons_of_neg _ (by simpa using hne), ih hd.2 hm]

theorem eraseFirstWithValue_cons_pos {p : String × UInt16} {a : UInt16} (h : p.2 = a)
    (l : List (String × UInt16)) : eraseFirstWithValue (p :: l) a = l := if_pos h

theorem eraseFirstWithValue_cons_neg {p : String × UInt16} {a : UInt16} (h : ¬p.2 = a)
    (l : List (String × UInt16)) : eraseFirstWithValue (p :: l) a = p :: eraseFirstWithValue l a :=
  if_neg h

/-- `eraseFirstWithValue` for two ids in either order. -/
theorem eraseFirstWithValue_comm (l : List (String × UInt16)) (a c : UInt16) :
    eraseFirstWithValue (eraseFirstWithValue l a) c =
      eraseFirstWithValue (eraseFirstWithValue l c) a := by
  induction l with
  | nil => rfl
  | cons p l ih =>
    by_cases ha : p.2 = a <;> by_cases hc : p.2 = c
    · rw [← ha, ← hc]
    · rw [eraseFirstWithValue_cons_pos ha, eraseFirstWithValue_cons_neg hc,
        eraseFirstWithValue_cons_pos ha]
    · rw [eraseFirstWithValue_cons_neg ha, eraseFirstWithValue_cons_pos hc,
        eraseFirstWithValue_cons_pos hc]
    · rw [eraseFirstWithValue_cons_neg ha, eraseFirstWithValue_cons_neg hc,
        eraseFirstWithValue_cons_neg hc, eraseFirstWithValue_cons_neg ha, ih]

namespace TextBuffer

variable (b : TextBuffer)

/-- `GetHyperlinkUriFromId(id)`: `_hyperlinkMap.at(id)`; `none` where `at` throws. -/
def getHyperlinkUriFromId (id : UInt16) : Option String := b.hyperlinkMap.lookup id

/-- `GetCustomIdFromId(id)`: the first custom id filed under `id`, empty without one. -/
def getCustomIdFromId (id : UInt16) : String :=
  match b.hyperlinkCustomIdMap.find? (·.2 == id) with
  | some p => p.1
  | none => ""

/-- `_PruneHyperlinks()` with the ids left after the scan removed in the order `order` puts
them in: the iteration order of the `unordered_set`, which the code does not choose. -/
def pruneHyperlinksIn (order : List UInt16 → List UInt16) : TextBuffer :=
  let hyperlinks := (b.getRowByOffset 0).getHyperlinks.eraseDups
  let b := b.touch 0
  if hyperlinks.isEmpty then b
  else
    let r := pruneScan b.height b.height b 1 hyperlinks
    (order r.2).foldl removeHyperlinkFromMap r.1

/-! ### What a registration reads back as -/

theorem getHyperlinkUriFromId_addHyperlinkToMap (uri : String) (id id' : UInt16) :
    (b.addHyperlinkToMap uri id).getHyperlinkUriFromId id' =
      if id' = id then some uri else b.getHyperlinkUriFromId id' :=
  lookup_assocSet _ _ _ _

theorem getHyperlinkUriFromId_removeHyperlinkFromMap (id id' : UInt16) :
    (b.removeHyperlinkFromMap id).getHyperlinkUriFromId id' =
      if id' = id then none else b.getHyperlinkUriFromId id' :=
  lookup_assocErase _ _ _

/-- No custom id is filed under the counter of a fresh registry. -/
theorem IdsFresh.find?_counter {b : TextBuffer} (h : b.IdsFresh) :
    b.hyperlinkCustomIdMap.find? (·.2 == b.currentHyperlinkId) = none :=
  List.find?_eq_none.2 fun p hp he => by
    have := (h.filed p hp).2
    rw [beq_iff_eq.1 he] at this
    exact Nat.lt_irrefl _ this

/-- **What `GetHyperlinkId` and `AddHyperlinkToMap` register reads back.**  From a fresh
registry, after a call hands out `n` and the URI is filed under it, `n` reads back as the URI,
and as the key the custom id was filed under, or as nothing for a link without a custom id,
whether the key was filed by this call or an earlier one. -/
theorem getHyperlinkId_reads_back {b : TextBuffer} (h : b.IdsFresh) {hash : String → UInt64}
    {uri id : String} {b' : TextBuffer} {n : UInt16} (hr : b.getHyperlinkId hash uri id = (b', n)) :
    (b'.addHyperlinkToMap uri n).getHyperlinkUriFromId n = some uri ∧
      (b'.addHyperlinkToMap uri n).getCustomIdFromId n =
        if id = "" then "" else customIdKey id (hash uri) := by
  refine ⟨by rw [getHyperlinkUriFromId_addHyperlinkToMap, if_pos rfl], ?_⟩
  show b'.getCustomIdFromId n = _
  rcases @getHyperlinkId_cases b hash uri id h.counter with
    ⟨hid, heq⟩ | ⟨hid, v, hl, heq⟩ | ⟨hid, hl, heq⟩ <;> rw [heq] at hr <;> cases hr
  · rw [if_pos hid]
    simp only [getCustomIdFromId, h.find?_counter]
  · rw [if_neg hid]
    simp only [getCustomIdFromId, find?_snd_of_mem h.distinct (mem_of_lookup_eq_some hl)]
  · rw [if_neg hid]
    simp [getCustomIdFromId, List.find?_append, h.find?_counter]

/-- The id a link with custom id `x` gets on a fresh one-by-one buffer. -/
def registeredLink : TextBuffer × UInt16 := oneByOne.getHyperlinkId (fun _ => 7) "u" "x"

theorem getHyperlinkId_reads_back_registeredLink :
    oneByOne.IdsFresh ∧
      oneByOne.getHyperlinkId (fun _ => 7) "u" "x" = (registeredLink.1, registeredLink.2) ∧
      (registeredLink.1.addHyperlinkToMap "u" registeredLink.2).getHyperlinkUriFromId
          registeredLink.2 = some "u" ∧
      (registeredLink.1.addHyperlinkToMap "u" registeredLink.2).getCustomIdFromId registeredLink.2 =
        if "x" = "" then "" else customIdKey "x" 7 :=
  have h : oneByOne.IdsFresh := idsFresh_create (Option.some_get _).symm
  ⟨h, rfl, @getHyperlinkId_reads_back oneByOne h (fun _ => 7) "u" "x" _ _ rfl⟩

/-! ### The order of the removals -/

/-- Two removals commute: they touch different entries of either map, or the same one. -/
theorem removeHyperlinkFromMap_comm (a c : UInt16) :
    (b.removeHyperlinkFromMap a).removeHyperlinkFromMap c =
      (b.removeHyperlinkFromMap c).removeHyperlinkFromMap a := by
  simp only [removeHyperlinkFromMap, assocErase, List.filter_filter, Bool.and_comm,
    eraseFirstWithValue_comm]

/-- A run of removals leaves the same buffer in every order of the same ids. -/
theorem foldl_removeHyperlinkFromMap_perm {ids ids' : List UInt16} (h : ids.Perm ids') :
    ids.foldl removeHyperlinkFromMap b = ids'.foldl removeHyperlinkFromMap b :=
  h.foldl_eq' (fun x _ y _ z => z.removeHyperlinkFromMap_comm x y) b

/-- **`_PruneHyperlinks` does not depend on the `unordered_set`'s order.**  For every buffer,
removing the ids the scan leaves in any order of them gives the buffer the model's order
gives. -/
theorem pruneHyperlinksIn_eq (order : List UInt16 → List UInt16) (horder : ∀ l, (order l).Perm l) :
    b.pruneHyperlinksIn order = b.pruneHyperlinks := by
  unfold pruneHyperlinksIn pruneHyperlinks
  dsimp only
  split
  · rfl
  · exact foldl_removeHyperlinkFromMap_perm _ (horder _)

theorem pruneHyperlinksIn_eq_reverse :
    (∀ l : List UInt16, l.reverse.Perm l) ∧
      linkedLetter.pruneHyperlinksIn List.reverse = linkedLetter.pruneHyperlinks :=
  ⟨List.reverse_perm, pruneHyperlinksIn_eq _ _ List.reverse_perm⟩

end TextBuffer

end TerminalBuffer
