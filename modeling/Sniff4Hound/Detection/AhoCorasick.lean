import Sniff4Hound.Library.LongestSuffix
import Mathlib.Data.List.Dedup
import Mathlib.Data.List.Perm.Subperm

/-!
# The multi-pattern matcher

`ahocorasick.AhoCorasick`: a trie of the patterns with failure links. A `_Node` is named
by the word that its path from the root spells, so the root is `[]` and the child of `node`
along `char` is `node ++ [char]`. `search` is proved to return the nonempty patterns that
occur in the text (`mem_search`).

* `matcher_exact`: the same as an equation of sets, and what `contains_any` tells.
-/

namespace Sniff4Hound

open LongestSuffix

variable {α : Type*} [DecidableEq α]

structure AhoCorasick (α : Type*) where
  nodes : List (List α)
  fail : List α → List α
  output : List α → List (List α)
  pattern_count : Nat

namespace AhoCorasick

/-! ## Construction -/

def empty : AhoCorasick α := ⟨[[]], id, fun _ => [], 0⟩

/-- The loop of `_insert`: creates the nodes that are missing on the path from `node`. -/
def insertPath (a : AhoCorasick α) (node : List α) : List α → AhoCorasick α
  | [] => a
  | char :: rest =>
    let child := node ++ [char]
    let a' := if child ∈ a.nodes then a else { a with nodes := a.nodes ++ [child] }
    insertPath a' child rest

def insert (a : AhoCorasick α) (pattern : List α) : AhoCorasick α :=
  let a' := a.insertPath [] pattern
  { a' with output := Function.update a'.output pattern (a'.output pattern ∪ [pattern]) }

/-- The keys of `node.children`. -/
def children (a : AhoCorasick α) (node : List α) : List α :=
  a.nodes.filterMap fun v => if v.dropLast = node then v.getLast? else none

/-- The loop `while node is not root and char not in node.children: node = node.fail`,
followed by `node.children.get(char, root)`. -/
def goto (a : AhoCorasick α) (n : Nat) (node : List α) (char : α) : List α :=
  follow (· ∈ a.nodes) a.fail n node char

def linkRoot (a : AhoCorasick α) (char : α) : AhoCorasick α :=
  { a with fail := Function.update a.fail [char] [] }

/-- One child of `current` in `_build_fail_links`. -/
def link (current : List α) (a : AhoCorasick α) (char : α) : AhoCorasick α :=
  let child := current ++ [char]
  let target := a.goto current.length (a.fail current) char
  { a with
    fail := Function.update a.fail child target
    output := Function.update a.output child (a.output child ∪ a.output target) }

/-- The loop over the queue; every node enters the queue once, so the number of nodes is
enough fuel. -/
def linkQueue : Nat → AhoCorasick α → List (List α) → AhoCorasick α
  | 0, a, _ => a
  | _ + 1, a, [] => a
  | fuel + 1, a, current :: queue =>
    linkQueue fuel ((a.children current).foldl (link current) a)
      (queue ++ (a.children current).map fun char => current ++ [char])

def buildFailLinks (a : AhoCorasick α) : AhoCorasick α :=
  linkQueue a.nodes.length ((a.children []).foldl linkRoot a)
    ((a.children []).map fun char => [char])

def ofPatterns (patterns : List (List α)) : AhoCorasick α :=
  let distinct := (patterns.filter (· ≠ [])).dedup
  { (distinct.foldl insert empty).buildFailLinks with pattern_count := distinct.length }

/-! ## Search -/

def searchStep (a : AhoCorasick α) (s : List α × List (List α)) (char : α) :
    List α × List (List α) :=
  let node := a.goto s.1.length s.1 char
  (node, s.2 ∪ a.output node)

def search (a : AhoCorasick α) (text : List α) : List (List α) :=
  if a.pattern_count = 0 ∨ text = [] then [] else (text.foldl a.searchStep ([], [])).2

/-- The loop of `contains_any`, which stops at the first output. -/
def anyFrom (a : AhoCorasick α) (node : List α) : List α → Bool
  | [] => false
  | char :: rest =>
    let next := a.goto node.length node char
    if a.output next = [] then a.anyFrom next rest else true

def contains_any (a : AhoCorasick α) (text : List α) : Bool :=
  if a.pattern_count = 0 ∨ text = [] then false else a.anyFrom [] text

/-! ## The trie -/

structure IsTrie (pats : List (List α)) (a : AhoCorasick α) : Prop where
  root : [] ∈ a.nodes
  closed : ∀ u c, u ++ [c] ∈ a.nodes → u ∈ a.nodes
  nodup : a.nodes.Nodup
  pattern : ∀ p ∈ pats, p ∈ a.nodes

def OwnOutput (pats : List (List α)) (a : AhoCorasick α) (v : List α) : Prop :=
  ∀ p, p ∈ a.output v ↔ p ∈ pats ∧ p = v

omit [DecidableEq α] in
theorem IsTrie.prefix_mem {pats : List (List α)} {a : AhoCorasick α} (h : a.IsTrie pats)
    {u v : List α} (hv : v ∈ a.nodes) (hPrefix : u <+: v) : u ∈ a.nodes := by
  obtain ⟨w, rfl⟩ := hPrefix
  induction w using List.reverseRecOn with
  | nil => simpa using hv
  | append_singleton w c ih =>
    apply ih
    apply h.closed _ c
    rwa [List.append_assoc]

omit [DecidableEq α] in
theorem isTrie_empty : (empty : AhoCorasick α).IsTrie [] where
  root := List.mem_singleton_self _
  closed := by
    intro u c hMem
    simp [empty] at hMem
  nodup := List.nodup_singleton _
  pattern := by simp

omit [DecidableEq α] in
theorem IsTrie.addChild {pats : List (List α)} {a : AhoCorasick α} (h : a.IsTrie pats)
    {node : List α} (hNode : node ∈ a.nodes) (char : α)
    (hNew : node ++ [char] ∉ a.nodes) :
    IsTrie pats { a with nodes := a.nodes ++ [node ++ [char]] } where
  root := List.mem_append_left _ h.root
  closed := by
    intro u c hMem
    rcases List.mem_append.mp hMem with hOld | hLast
    · exact List.mem_append_left _ (h.closed u c hOld)
    · obtain ⟨rfl, _⟩ := List.append_inj' (List.mem_singleton.mp hLast) rfl
      exact List.mem_append_left _ hNode
  nodup := List.nodup_append.mpr ⟨h.nodup, List.nodup_singleton _, by
    intro x hx y hy hEq
    rw [List.mem_singleton.mp hy] at hEq
    exact hNew (hEq ▸ hx)⟩
  pattern := fun p hp => List.mem_append_left _ (h.pattern p hp)

theorem insertPath_output (a : AhoCorasick α) (node word : List α) :
    (a.insertPath node word).output = a.output := by
  induction word generalizing a node with
  | nil => rfl
  | cons c rest ih =>
    rw [insertPath, ih]
    split <;> rfl

theorem IsTrie.insertPath {pats : List (List α)} {a : AhoCorasick α} (h : a.IsTrie pats)
    {node : List α} (hNode : node ∈ a.nodes) (word : List α) :
    (a.insertPath node word).IsTrie pats ∧ node ++ word ∈ (a.insertPath node word).nodes := by
  induction word generalizing a node with
  | nil => exact ⟨h, by simpa [AhoCorasick.insertPath] using hNode⟩
  | cons c rest ih =>
    rw [AhoCorasick.insertPath]
    have hWord : node ++ c :: rest = node ++ [c] ++ rest := by simp
    rw [hWord]
    by_cases hChild : node ++ [c] ∈ a.nodes
    · simp only [hChild, if_true]
      exact ih h hChild
    · simp only [hChild, if_false]
      exact ih (h.addChild hNode c hChild) (by simp)

theorem IsTrie.insert {pats : List (List α)} {a : AhoCorasick α} (h : a.IsTrie pats)
    (hOwn : ∀ v, a.OwnOutput pats v) (pattern : List α) :
    (a.insert pattern).IsTrie (pats ++ [pattern]) ∧
      ∀ v, (a.insert pattern).OwnOutput (pats ++ [pattern]) v := by
  obtain ⟨hTrie, hMem⟩ := h.insertPath h.root pattern
  refine ⟨⟨hTrie.root, hTrie.closed, hTrie.nodup, ?_⟩, ?_⟩
  · intro p hp
    rcases List.mem_append.mp hp with hOld | hLast
    · exact hTrie.pattern p hOld
    · rw [List.mem_singleton.mp hLast]
      exact hMem
  · intro v p
    have hOld := hOwn v p
    by_cases hv : v = pattern
    · subst hv
      simp [AhoCorasick.insert, insertPath_output, hOld]
      tauto
    · simp only [AhoCorasick.insert, insertPath_output, Function.update_of_ne hv, hOld,
        List.mem_append, List.mem_singleton]
      grind

theorem isTrie_foldl_insert (pats : List (List α)) :
    (pats.foldl insert empty).IsTrie pats ∧
      ∀ v, (pats.foldl insert empty).OwnOutput pats v := by
  induction pats using List.reverseRecOn with
  | nil => exact ⟨isTrie_empty, fun v p => by simp [empty]⟩
  | append_singleton pats p ih =>
    rw [List.foldl_append]
    exact ih.1.insert ih.2 p

omit [DecidableEq α] in
theorem IsTrie.relink {pats : List (List α)} {a : AhoCorasick α} (h : a.IsTrie pats)
    (fail : List α → List α) (output : List α → List (List α)) :
    IsTrie pats { a with fail := fail, output := output } :=
  ⟨h.root, h.closed, h.nodup, h.pattern⟩

theorem mem_children {a : AhoCorasick α} {node : List α} {c : α} :
    c ∈ a.children node ↔ node ++ [c] ∈ a.nodes := by
  simp only [children, List.mem_filterMap]
  constructor
  · rintro ⟨v, hv, hLast⟩
    split at hLast
    · rename_i hInit
      rw [← hInit, List.dropLast_append_getLast? c hLast]
      exact hv
    · cases hLast
  · intro hMem
    exact ⟨node ++ [c], hMem, by simp⟩

theorem IsTrie.children_nodup {pats : List (List α)} {a : AhoCorasick α} (h : a.IsTrie pats)
    (node : List α) : (a.children node).Nodup := by
  apply List.Nodup.filterMap _ h.nodup
  intro u v c hu hv
  simp only [Option.mem_def] at hu hv
  split at hu
  · rename_i hu'
    split at hv
    · rename_i hv'
      rw [← List.dropLast_append_getLast? c hu, ← List.dropLast_append_getLast? c hv, hu', hv']
    · cases hv
  · cases hu

/-! ## The failure links -/

/-- The nodes of `seen` have their final link and output, the others their own pattern. -/
structure LinkedOn (pats : List (List α)) (a : AhoCorasick α) (seen : List (List α)) :
    Prop where
  trie : a.IsTrie pats
  nonempty : [] ∉ pats
  nodup : seen.Nodup
  node : ∀ v ∈ seen, v ∈ a.nodes ∧ v ≠ []
  fail : ∀ v ∈ seen, a.fail v = longestSuffix (· ∈ a.nodes) v.tail
  output : ∀ v ∈ seen, ∀ p, p ∈ a.output v ↔ p ∈ pats ∧ p <:+ v
  own : ∀ v, v ∉ seen → a.OwnOutput pats v

theorem LinkedOn.output_root {pats seen : List (List α)} {a : AhoCorasick α}
    (h : a.LinkedOn pats seen) (p : List α) : p ∈ a.output [] ↔ p ∈ pats ∧ p <:+ [] := by
  rw [List.suffix_nil]
  exact h.own [] (fun hMem => (h.node [] hMem).2 rfl) p

theorem LinkedOn.goto_eq {pats seen : List (List α)} {a : AhoCorasick α}
    (h : a.LinkedOn pats seen) {v : List α} {n : Nat} (hv : v ∈ a.nodes) (hn : v.length ≤ n)
    (hShort : ∀ u ∈ a.nodes, u ≠ [] → u.length ≤ v.length → u ∈ seen) (c : α) :
    a.goto n v c = longestSuffix (· ∈ a.nodes) (v ++ [c]) :=
  follow_eq h.trie.root h.trie.closed c hn hv
    fun u hu hNe hLen => h.fail u (hShort u hu hNe hLen)

theorem LinkedOn.link_target {pats seen : List (List α)} {a : AhoCorasick α}
    (h : a.LinkedOn pats seen) {current : List α} (hCurrent : current ∈ seen)
    (hShort : ∀ u ∈ a.nodes, u ≠ [] → u.length ≤ current.length → u ∈ seen) (c : α) :
    a.goto current.length (a.fail current) c =
      longestSuffix (· ∈ a.nodes) (current ++ [c]).tail := by
  have hFail := h.fail current hCurrent
  have hNe := (h.node current hCurrent).2
  have hLen : (a.fail current).length ≤ current.length := by
    rw [hFail]
    exact (longestSuffix_suffix _ _).length_le.trans (List.tail_suffix _).length_le
  rw [h.goto_eq (by rw [hFail]; exact longestSuffix_mem h.trie.root _) hLen
    (fun u hu hu' hle => hShort u hu hu' (hle.trans hLen)) c, hFail,
    ← longestSuffix_snoc h.trie.root h.trie.closed, List.tail_append_of_ne_nil hNe]

theorem LinkedOn.extend {pats seen : List (List α)} {a : AhoCorasick α}
    (h : a.LinkedOn pats seen) {child : List α} (hChild : child ∈ a.nodes) (hNe : child ≠ [])
    (hNew : child ∉ seen) {target : List α} {out : List (List α)}
    (hTarget : target = longestSuffix (· ∈ a.nodes) child.tail)
    (hOut : ∀ p, p ∈ out ↔ p ∈ pats ∧ p <:+ child) :
    LinkedOn pats { a with
      fail := Function.update a.fail child target
      output := Function.update a.output child out } (seen ++ [child]) := by
  have hSeen : ∀ v ∈ seen ++ [child], v ≠ child → v ∈ seen := fun v hv hEq =>
    (List.mem_append.mp hv).resolve_right (by simpa using hEq)
  refine ⟨h.trie.relink _ _, h.nonempty, ?_, ?_, ?_, ?_, ?_⟩
  · exact List.nodup_append.mpr ⟨h.nodup, List.nodup_singleton _, by
      intro x hx y hy hEq
      rw [List.mem_singleton.mp hy] at hEq
      exact hNew (hEq ▸ hx)⟩
  · intro v hv
    by_cases hEq : v = child
    · rw [hEq]
      exact ⟨hChild, hNe⟩
    · exact h.node v (hSeen v hv hEq)
  · intro v hv
    show Function.update a.fail child target v = longestSuffix (· ∈ a.nodes) v.tail
    by_cases hEq : v = child
    · rw [hEq, Function.update_self, hTarget]
    · rw [Function.update_of_ne hEq]
      exact h.fail v (hSeen v hv hEq)
  · intro v hv p
    show p ∈ Function.update a.output child out v ↔ _
    by_cases hEq : v = child
    · rw [hEq, Function.update_self]
      exact hOut p
    · rw [Function.update_of_ne hEq]
      exact h.output v (hSeen v hv hEq) p
  · intro v hv p
    have hEq : v ≠ child := fun hEq => hv (by simp [hEq])
    show p ∈ Function.update a.output child out v ↔ _
    rw [Function.update_of_ne hEq]
    exact h.own v (fun hMem => hv (List.mem_append_left _ hMem)) p

theorem LinkedOn.link {pats seen : List (List α)} {a : AhoCorasick α}
    (h : a.LinkedOn pats seen) {current : List α} (hCurrent : current ∈ seen)
    (hShort : ∀ u ∈ a.nodes, u ≠ [] → u.length ≤ current.length → u ∈ seen) {c : α}
    (hChild : current ++ [c] ∈ a.nodes) (hNew : current ++ [c] ∉ seen) :
    LinkedOn pats (AhoCorasick.link current a c) (seen ++ [current ++ [c]]) := by
  have hTarget := h.link_target hCurrent hShort c
  refine h.extend hChild (by simp) hNew hTarget ?_
  rw [hTarget]
  set target := longestSuffix (· ∈ a.nodes) (current ++ [c]).tail
  have hSuffix : target <:+ (current ++ [c]).tail := longestSuffix_suffix _ _
  have hTargetOut : ∀ p, p ∈ a.output target ↔ p ∈ pats ∧ p <:+ target := by
    intro p
    by_cases hNil : target = []
    · rw [hNil]
      exact h.output_root p
    · have hLen : target.length ≤ current.length := by
        have := hSuffix.length_le
        simp at this
        exact this
      exact h.output target (hShort target (longestSuffix_mem h.trie.root _) hNil hLen) p
  intro p
  rw [List.mem_union_iff, h.own _ hNew p, hTargetOut p]
  constructor
  · rintro (⟨hp, rfl⟩ | ⟨hp, hs⟩)
    · exact ⟨hp, List.suffix_rfl⟩
    · exact ⟨hp, hs.trans (hSuffix.trans (List.tail_suffix _))⟩
  · rintro ⟨hp, hs⟩
    by_cases hEq : p = current ++ [c]
    · exact Or.inl ⟨hp, hEq⟩
    · refine Or.inr ⟨hp, suffix_longestSuffix ?_ (h.trie.pattern p hp)⟩
      obtain ⟨d, w, hCons⟩ := List.exists_cons_of_ne_nil
        (List.append_ne_nil_of_right_ne_nil current (List.cons_ne_nil c []))
      rw [hCons] at hs hEq ⊢
      exact (List.suffix_cons_iff.mp hs).resolve_left hEq

theorem LinkedOn.linkRoot {pats seen : List (List α)} {a : AhoCorasick α}
    (h : a.LinkedOn pats seen) {c : α} (hChild : [c] ∈ a.nodes) (hNew : [c] ∉ seen) :
    LinkedOn pats (a.linkRoot c) (seen ++ [[c]]) := by
  have hSame : a.linkRoot c = { a with
      fail := Function.update a.fail [c] []
      output := Function.update a.output [c] (a.output [c]) } := by
    rw [Function.update_eq_self]
    rfl
  rw [hSame]
  refine h.extend hChild (by simp) hNew rfl fun p => ?_
  refine (h.own [c] hNew p).trans (and_congr_right fun hp => ?_)
  have hNe : p ≠ [] := fun hNil => h.nonempty (hNil ▸ hp)
  rw [List.suffix_cons_iff, List.suffix_nil]
  simp [hNe]

theorem LinkedOn.foldl {pats seen : List (List α)} {a : AhoCorasick α}
    (step : AhoCorasick α → α → AhoCorasick α) (current : List α)
    (hNodes : ∀ b c, (step b c).nodes = b.nodes)
    (hStep : ∀ b more c, seen <+: more → b.nodes = a.nodes → LinkedOn pats b more →
      current ++ [c] ∈ a.nodes → current ++ [c] ∉ more →
      LinkedOn pats (step b c) (more ++ [current ++ [c]]))
    (h : a.LinkedOn pats seen) {chars : List α} (hChars : chars.Nodup)
    (hIn : ∀ c ∈ chars, current ++ [c] ∈ a.nodes)
    (hNew : ∀ c ∈ chars, current ++ [c] ∉ seen) :
    (chars.foldl step a).nodes = a.nodes ∧
      LinkedOn pats (chars.foldl step a) (seen ++ chars.map fun c => current ++ [c]) := by
  induction chars using List.reverseRecOn with
  | nil => exact ⟨rfl, by simpa using h⟩
  | append_singleton chars c ih =>
    have hParts := List.nodup_append.mp hChars
    obtain ⟨hSame, hLinked⟩ := ih hParts.1
      (fun d hd => hIn d (List.mem_append_left _ hd))
      (fun d hd => hNew d (List.mem_append_left _ hd))
    have hFresh : current ++ [c] ∉ seen ++ chars.map fun d => current ++ [d] := by
      rw [List.mem_append, not_or]
      refine ⟨hNew c (by simp), fun hMap => ?_⟩
      obtain ⟨d, hd, hEq⟩ := List.mem_map.mp hMap
      have hdc : d = c := by simpa using hEq
      exact hParts.2.2 d hd c (List.mem_singleton_self c) hdc
    rw [List.foldl_append]
    refine ⟨(hNodes _ _).trans hSame, ?_⟩
    have hDone := hStep _ _ c (List.prefix_append _ _) hSame hLinked (hIn c (by simp)) hFresh
    simpa using hDone

/-! ## The queue -/

/-- Between two rounds of `_build_fail_links`. -/
structure Queued (pats : List (List α)) (a : AhoCorasick α) (done queue : List (List α)) :
    Prop where
  linked : a.LinkedOn pats (done ++ queue)
  sorted : queue.Pairwise fun u v => u.length ≤ v.length
  near : ∀ u ∈ queue, ∀ v ∈ queue, v.length ≤ u.length + 1
  waiting : ∀ v ∈ a.nodes, v ≠ [] → v ∈ done ++ queue ∨ ∃ u ∈ queue, u <+: v ∧ u ≠ v
  fresh : ∀ u ∈ queue, ∀ v ∈ done ++ queue, u <+: v → v = u

theorem Queued.short {pats done queue : List (List α)} {a : AhoCorasick α}
    {current : List α} (h : a.Queued pats done (current :: queue)) {v : List α}
    (hv : v ∈ a.nodes) (hNe : v ≠ []) (hLen : v.length ≤ current.length) :
    v ∈ done ++ current :: queue := by
  rcases h.waiting v hv hNe with hSeen | ⟨u, hu, hPrefix, hDiff⟩
  · exact hSeen
  · exfalso
    have hLt : u.length < v.length :=
      lt_of_le_of_ne hPrefix.length_le fun hEq => hDiff (hPrefix.eq_of_length hEq)
    have hHead : current.length ≤ u.length := by
      rcases List.mem_cons.mp hu with rfl | hRest
      · exact Nat.le_refl _
      · exact (List.pairwise_cons.mp h.sorted).1 u hRest
    omega

theorem Queued.round {pats done queue : List (List α)} {a : AhoCorasick α}
    {current : List α} (h : a.Queued pats done (current :: queue)) :
    ((a.children current).foldl (AhoCorasick.link current) a).nodes = a.nodes ∧
      Queued pats ((a.children current).foldl (AhoCorasick.link current) a)
        (done ++ [current])
        (queue ++ (a.children current).map fun char => current ++ [char]) := by
  have hSeenCurrent : current ∈ done ++ current :: queue := by simp
  have hHead : current ∈ current :: queue := List.mem_cons_self
  have hAfter : ∀ u ∈ queue, current.length ≤ u.length ∧ u.length ≤ current.length + 1 :=
    fun u hu => ⟨(List.pairwise_cons.mp h.sorted).1 u hu,
      h.near current hHead u (List.mem_cons_of_mem _ hu)⟩
  have hAway : current ∉ queue := by
    have hNodup := (List.nodup_append.mp h.linked.nodup).2.1
    exact (List.nodup_cons.mp hNodup).1
  obtain ⟨hNodes, hLinked⟩ := h.linked.foldl (AhoCorasick.link current) current
    (fun _ _ => rfl)
    (fun b more c hMore hSame hb hChild hNew =>
      hb.link (hMore.subset hSeenCurrent)
        (fun u hu hNe hLen => hMore.subset (h.short (hSame ▸ hu) hNe hLen))
        (hSame ▸ hChild) hNew)
    (h.linked.trie.children_nodup current)
    (fun c hc => mem_children.mp hc)
    (fun c _ hMem => by
      have hEq := h.fresh current hHead _ hMem (List.prefix_append _ _)
      simp at hEq)
  have hSplit : ∀ v, v ∈ done ++ [current] ++ (queue ++ (a.children current).map
      fun char => current ++ [char]) ↔ v ∈ done ++ current :: queue ∨
        ∃ c ∈ a.children current, v = current ++ [c] := by
    intro v
    simp only [List.mem_append, List.mem_cons, List.mem_map, List.not_mem_nil, or_false]
    grind
  have hQueue : ∀ v, v ∈ queue ++ (a.children current).map (fun char => current ++ [char]) ↔
      v ∈ queue ∨ ∃ c ∈ a.children current, v = current ++ [c] := by
    intro v
    simp only [List.mem_append, List.mem_map]
    grind
  refine ⟨hNodes, by simpa using hLinked, ?_, ?_, ?_, ?_⟩
  · refine List.pairwise_append.mpr ⟨(List.pairwise_cons.mp h.sorted).2, ?_, ?_⟩
    · exact List.pairwise_map.mpr (List.pairwise_of_forall fun _ _ => by simp)
    · intro u hu v hv
      obtain ⟨c, -, rfl⟩ := List.mem_map.mp hv
      simpa using (hAfter u hu).2
  · intro u hu v hv
    rw [hQueue] at hu hv
    rcases hu with hu | ⟨c, -, rfl⟩ <;> rcases hv with hv | ⟨d, -, rfl⟩
    · exact h.near u (List.mem_cons_of_mem _ hu) v (List.mem_cons_of_mem _ hv)
    · simpa using (hAfter u hu).1
    · have := (hAfter v hv).2
      simp
      omega
    · simp
  · intro v hv hNe
    rw [hNodes] at hv
    rw [hSplit]
    rcases h.waiting v hv hNe with hSeen | ⟨u, hu, hPrefix, hDiff⟩
    · exact Or.inl (Or.inl hSeen)
    · rcases List.mem_cons.mp hu with rfl | hRest
      · -- the unlinked node is below `current`: its ancestor among the children is queued
        obtain ⟨w, rfl⟩ := hPrefix
        cases w with
        | nil => exact absurd (List.append_nil u).symm hDiff
        | cons d w =>
          have hChild : d ∈ a.children u := by
            refine mem_children.mpr (h.linked.trie.prefix_mem hv ⟨w, ?_⟩)
            simp
          by_cases hw : w = []
          · exact Or.inl (Or.inr ⟨d, hChild, by rw [hw]⟩)
          · refine Or.inr ⟨u ++ [d], (hQueue _).mpr (Or.inr ⟨d, hChild, rfl⟩), ⟨w, by simp⟩, ?_⟩
            simpa using hw
      · exact Or.inr ⟨u, (hQueue u).mpr (Or.inl hRest), hPrefix, hDiff⟩
  · intro u hu v hv hPrefix
    rw [hQueue] at hu
    rw [hSplit] at hv
    rcases hu with hu | ⟨c, -, rfl⟩ <;> rcases hv with hv | ⟨d, -, rfl⟩
    · exact h.fresh u (List.mem_cons_of_mem _ hu) v hv hPrefix
    · rcases List.prefix_concat_iff.mp hPrefix with hEq | hShorter
      · exact hEq.symm
      · have hEq := h.fresh u (List.mem_cons_of_mem _ hu) current hSeenCurrent hShorter
        exact absurd (hEq ▸ hu) hAway
    · have hEq := h.fresh current hHead v hv ((List.prefix_append _ _).trans hPrefix)
      have hLen := hPrefix.length_le
      rw [hEq, List.length_append, List.length_singleton] at hLen
      omega
    · exact (hPrefix.eq_of_length (by simp)).symm

structure Complete (pats : List (List α)) (a : AhoCorasick α) : Prop where
  trie : a.IsTrie pats
  nonempty : [] ∉ pats
  fail : ∀ v ∈ a.nodes, v ≠ [] → a.fail v = longestSuffix (· ∈ a.nodes) v.tail
  output : ∀ v ∈ a.nodes, ∀ p, p ∈ a.output v ↔ p ∈ pats ∧ p <:+ v

theorem Queued.complete {pats done : List (List α)} {a : AhoCorasick α}
    (h : a.Queued pats done []) : a.Complete pats := by
  have hSeen : ∀ v ∈ a.nodes, v ≠ [] → v ∈ done ++ [] := by
    intro v hv hNe
    rcases h.waiting v hv hNe with hMem | ⟨u, hu, -, -⟩
    · exact hMem
    · cases hu
  refine ⟨h.linked.trie, h.linked.nonempty,
    fun v hv hNe => h.linked.fail v (hSeen v hv hNe), fun v hv p => ?_⟩
  by_cases hNil : v = []
  · rw [hNil]
    exact h.linked.output_root p
  · exact h.linked.output v (hSeen v hv hNil) p

theorem Queued.length_lt {pats done queue : List (List α)} {a : AhoCorasick α}
    (h : a.Queued pats done queue) : (done ++ queue).length < a.nodes.length := by
  have hRoot : [] ∉ done ++ queue := fun hMem => (h.linked.node [] hMem).2 rfl
  have hNodup : ([] :: (done ++ queue)).Nodup := List.nodup_cons.mpr ⟨hRoot, h.linked.nodup⟩
  have hSub : [] :: (done ++ queue) ⊆ a.nodes := by
    intro v hv
    rcases List.mem_cons.mp hv with rfl | hMem
    · exact h.linked.trie.root
    · exact (h.linked.node v hMem).1
  exact (List.subperm_of_subset hNodup hSub).length_le

theorem Queued.linkQueue {pats : List (List α)} (done : List (List α)) {queue : List (List α)}
    {a : AhoCorasick α} {fuel : Nat}
    (h : a.Queued pats done queue) (hFuel : a.nodes.length ≤ done.length + fuel) :
    (AhoCorasick.linkQueue fuel a queue).Complete pats := by
  induction fuel generalizing a done queue with
  | zero =>
    have hLt := h.length_lt
    rw [List.length_append] at hLt
    omega
  | succ fuel ih =>
    cases queue with
    | nil => exact h.complete
    | cons current queue =>
      obtain ⟨hNodes, hRound⟩ := h.round
      rw [AhoCorasick.linkQueue]
      apply ih _ hRound
      rw [hNodes, List.length_append, List.length_singleton]
      omega

theorem buildFailLinks_complete {pats : List (List α)} {a : AhoCorasick α}
    (hTrie : a.IsTrie pats) (hNil : [] ∉ pats) (hOwn : ∀ v, a.OwnOutput pats v) :
    a.buildFailLinks.Complete pats := by
  have hNone : a.LinkedOn pats [] :=
    ⟨hTrie, hNil, List.nodup_nil, by simp, by simp, by simp, fun v _ => hOwn v⟩
  obtain ⟨hNodes, hLinked⟩ := hNone.foldl AhoCorasick.linkRoot [] (fun _ _ => rfl)
    (fun b more c _ hSame hb hChild hNew => hb.linkRoot (hSame ▸ hChild) hNew)
    (hTrie.children_nodup []) (fun c hc => mem_children.mp hc) (fun c _ => by simp)
  refine Queued.linkQueue [] ⟨hLinked, ?_, ?_, ?_, ?_⟩ ?_
  · exact List.pairwise_map.mpr (List.pairwise_of_forall fun _ _ => by simp)
  · simp
  · intro v hv hNe
    rw [hNodes] at hv
    obtain ⟨d, w, rfl⟩ := List.exists_cons_of_ne_nil hNe
    have hChild : d ∈ a.children [] :=
      mem_children.mpr (hTrie.prefix_mem hv ⟨w, rfl⟩)
    have hQueued : [d] ∈ (a.children []).map fun char => [char] :=
      List.mem_map.mpr ⟨d, hChild, rfl⟩
    by_cases hw : w = []
    · exact Or.inl (by rw [hw]; exact hQueued)
    · exact Or.inr ⟨[d], hQueued, ⟨w, rfl⟩, by simpa using Ne.symm hw⟩
  · intro u hu v hv hPrefix
    obtain ⟨c, -, rfl⟩ := List.mem_map.mp hu
    obtain ⟨d, -, rfl⟩ := List.mem_map.mp hv
    exact (hPrefix.eq_of_length rfl).symm
  · rw [hNodes]
    simp

/-! ## What the search finds -/

theorem Complete.searchStep {pats : List (List α)} {a : AhoCorasick α} (h : a.Complete pats)
    (text : List α) :
    (text.foldl a.searchStep ([], [])).1 = longestSuffix (· ∈ a.nodes) text ∧
      ∀ p, p ∈ (text.foldl a.searchStep ([], [])).2 ↔
        p ∈ pats ∧ p ≠ [] ∧ p <:+: text := by
  obtain ⟨hTrie, hNonempty, hFail, hOutput⟩ := h
  induction text using List.reverseRecOn with
  | nil =>
    refine ⟨rfl, fun p => ?_⟩
    simp only [List.foldl_nil, List.not_mem_nil, false_iff, not_and]
    exact fun _ hNe hInfix => hNe (List.infix_nil.mp hInfix)
  | append_singleton text c ih =>
    obtain ⟨hNode, hMatches⟩ := ih
    rw [List.foldl_append]
    set s := text.foldl a.searchStep ([], [])
    have hMem : s.1 ∈ a.nodes := hNode ▸ longestSuffix_mem hTrie.root text
    have hNext : a.goto s.1.length s.1 c = longestSuffix (· ∈ a.nodes) (text ++ [c]) := by
      rw [goto, follow_eq hTrie.root hTrie.closed c (Nat.le_refl _) hMem
        (fun u hu hNe _ => hFail u hu hNe), hNode,
        ← longestSuffix_snoc hTrie.root hTrie.closed]
    refine ⟨hNext, fun p => ?_⟩
    show p ∈ s.2 ∪ a.output (a.goto s.1.length s.1 c) ↔ _
    rw [List.mem_union_iff, hMatches p, hNext,
      hOutput _ (longestSuffix_mem hTrie.root _) p, List.infix_concat_iff]
    constructor
    · rintro (⟨hp, hNe, hIn⟩ | ⟨hp, hEnd⟩)
      · exact ⟨hp, hNe, Or.inr hIn⟩
      · exact ⟨hp, fun hNil => hNonempty (hNil ▸ hp),
          Or.inl (hEnd.trans (longestSuffix_suffix _ _))⟩
    · rintro ⟨hp, hNe, hEnd | hIn⟩
      · exact Or.inr ⟨hp, suffix_longestSuffix hEnd (hTrie.pattern p hp)⟩
      · exact Or.inl ⟨hp, hNe, hIn⟩

theorem Complete.mem_search {pats : List (List α)} {a : AhoCorasick α} (h : a.Complete pats)
    (hCount : a.pattern_count = 0 → pats = []) {text p : List α} :
    p ∈ a.search text ↔ p ∈ pats ∧ p ≠ [] ∧ p <:+: text := by
  rw [search]
  split
  · rename_i hEmpty
    simp only [List.not_mem_nil, false_iff, not_and]
    intro hp hNe hInfix
    rcases hEmpty with hZero | rfl
    · rw [hCount hZero] at hp
      cases hp
    · exact hNe (List.infix_nil.mp hInfix)
  · exact (h.searchStep text).2 p

theorem mem_search {patterns : List (List α)} {text p : List α} :
    p ∈ (ofPatterns patterns).search text ↔ p ∈ patterns ∧ p ≠ [] ∧ p <:+: text := by
  set distinct := (patterns.filter (· ≠ [])).dedup with hDistinct
  have hNil : [] ∉ distinct := by simp [hDistinct]
  obtain ⟨hTrie, hOwn⟩ := isTrie_foldl_insert distinct
  have hComplete := buildFailLinks_complete hTrie hNil hOwn
  have hSame : (ofPatterns patterns).Complete distinct :=
    ⟨⟨hComplete.trie.root, hComplete.trie.closed, hComplete.trie.nodup,
      hComplete.trie.pattern⟩, hComplete.nonempty, hComplete.fail, hComplete.output⟩
  rw [hSame.mem_search (fun hZero => List.length_eq_zero_iff.mp hZero)]
  simp only [hDistinct, List.mem_dedup, List.mem_filter, decide_eq_true_eq]
  tauto

/-! ## Whether there is a match -/

omit [DecidableEq α] in
theorem union_eq_nil [BEq α] [LawfulBEq α] {xs ys : List α} : xs ∪ ys = [] ↔ xs = [] ∧ ys = [] := by
  simp only [List.eq_nil_iff_forall_not_mem, List.mem_union_iff, not_or, forall_and]

theorem foldl_eq_nil (a : AhoCorasick α) (text node : List α) (found : List (List α)) :
    (text.foldl a.searchStep (node, found)).2 = [] ↔ found = [] ∧ a.anyFrom node text = false := by
  induction text generalizing node found with
  | nil => exact (and_iff_left rfl).symm
  | cons char text ih =>
    rw [List.foldl_cons, searchStep, ih, union_eq_nil, anyFrom]
    by_cases hOutput : a.output (a.goto node.length node char) = []
    · rw [if_pos hOutput]
      exact and_congr_left' (and_iff_left hOutput)
    · rw [if_neg hOutput]
      exact iff_of_false (fun h => hOutput h.1.2) (fun h => Bool.noConfusion h.2)

theorem contains_any_eq (a : AhoCorasick α) (text : List α) :
    a.contains_any text = true ↔ a.search text ≠ [] := by
  rw [contains_any, search]
  by_cases hEmpty : a.pattern_count = 0 ∨ text = []
  · rw [if_pos hEmpty, if_pos hEmpty]
    exact iff_of_false Bool.false_ne_true (fun h => h rfl)
  · rw [if_neg hEmpty, if_neg hEmpty, Ne, foldl_eq_nil, not_and, Bool.not_eq_false]
    exact ⟨fun h _ => h, fun h => h rfl⟩

def Occurring (patterns : List (List α)) (text : List α) : Set (List α) :=
  {p | p ∈ patterns ∧ p <:+: text}

/-- The matcher returns the occurring patterns, and tells whether there is one. -/
theorem matcher_exact {patterns : List (List α)} (hNonempty : [] ∉ patterns) (text : List α) :
    {p | p ∈ (ofPatterns patterns).search text} = Occurring patterns text ∧
      ((ofPatterns patterns).contains_any text = true ↔ (Occurring patterns text).Nonempty) := by
  have hSearch : ∀ p, p ∈ (ofPatterns patterns).search text ↔ p ∈ Occurring patterns text := by
    intro p
    rw [mem_search]
    exact ⟨fun ⟨hMem, _, hIn⟩ => ⟨hMem, hIn⟩,
      fun ⟨hMem, hIn⟩ => ⟨hMem, fun hNil => hNonempty (hNil ▸ hMem), hIn⟩⟩
  refine ⟨Set.ext hSearch, ?_⟩
  rw [contains_any_eq]
  constructor
  · intro hSome
    obtain ⟨p, hp⟩ := List.exists_mem_of_ne_nil _ hSome
    exact ⟨p, (hSearch p).mp hp⟩
  · rintro ⟨p, hp⟩ hNone
    have hMem := (hSearch p).mpr hp
    rw [hNone] at hMem
    cases hMem

/-- Two patterns of which one overlaps the other. -/
theorem matcher_exact_overlap :
    {p | p ∈ (ofPatterns [[1, 2, 3], [2, 3]]).search [1, 2, 3]} =
        Occurring [[1, 2, 3], [2, 3]] [1, 2, 3] ∧
      ((ofPatterns [[1, 2, 3], [2, 3]]).contains_any [1, 2, 3] = true ↔
        (Occurring [[1, 2, 3], [2, 3]] [1, 2, 3]).Nonempty) :=
  matcher_exact (by decide) [1, 2, 3]

end AhoCorasick

end Sniff4Hound
