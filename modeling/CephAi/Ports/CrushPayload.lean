import CephAi.Verified.Json
import Mathlib.Data.List.TakeDrop

/-!
# Bounding the CRUSH section of a snapshot

`_limit_crush_node`, `_limit_crush_payload` and the `crush` branch of `_bound_section_payload` of
`shared/cluster_snapshot.py`.

The payload is rebuilt from its first nodes; whether it was cut is then read off the sizes: the
rebuilt one has lost the nodes behind the first ones and every `children` that was empty, and has
gained the mark `payload_truncated`.

A forest is its first tree, with the forest of its children, and the forest of the others.  The
order of the keys of an object is not modelled: no size depends on it.

## Main results

* `preorder_limitCrushNodes` — the rebuilt forest is the pre-order prefix.
* `bytes_limit` — how the sizes of the two payloads differ.
* `bounded_iff` — when the payload is bounded as it should be.
-/

namespace CephAi.Ports.CrushPayload

open Verified.Json

/-! ## Payloads -/

/-- A JSON scalar; a number stands for its text. -/
inductive Scalar
  | null
  | bool (b : Bool)
  | number (text : List Char)
deriving DecidableEq, Repr

def Scalar.text : Scalar → List Char
  | .null => ['n', 'u', 'l', 'l']
  | .bool true => ['t', 'r', 'u', 'e']
  | .bool false => ['f', 'a', 'l', 's', 'e']
  | .number text => text

abbrev Json := Value Scalar

/-- A value that is not true, under a key that should hold nodes. -/
inductive Falsy
  | null
  | false
  | zero (text : List Char)
  | emptyStr
  | emptyList
  | emptyDict
deriving DecidableEq, Repr

def Falsy.value : Falsy → Json
  | .null => .atom .null
  | .false => .atom (.bool Bool.false)
  | .zero text => .atom (.number text)
  | .emptyStr => .str ""
  | .emptyList => .arr []
  | .emptyDict => .obj []

/-- Nodes with their other keys; `entry` is what a node without children has under `children`. -/
inductive Forest
  | nil
  | node (attrs : List (String × Json)) (entry : Option Falsy) (children rest : Forest)

def nodesMember (key : String) (entry : Option Falsy) (nodes : List Json) : List (String × Json) :=
  match nodes with
  | [] => entry.toList.map fun v => (key, v.value)
  | v :: nodes => [(key, .arr (v :: nodes))]

def Forest.values : Forest → List Json
  | .nil => []
  | .node attrs entry children rest =>
    .obj (attrs ++ nodesMember "children" entry children.values) :: rest.values

/-- The number of nodes. -/
def Forest.count : Forest → Nat
  | .nil => 0
  | .node _ _ children rest => 1 + children.count + rest.count

/-- The nodes with their depths, parents before children. -/
def Forest.preorder (depth : Nat) : Forest → List (Nat × List (String × Json))
  | .nil => []
  | .node attrs _ children rest =>
    (depth, attrs) :: (children.preorder (depth + 1) ++ rest.preorder depth)

/-- A payload: the other keys, what is under `roots` where there are none, and the roots. -/
structure Payload where
  attrs : List (String × Json)
  entry : Option Falsy
  roots : Forest

def Payload.value (p : Payload) : Json :=
  .obj (p.attrs ++ nodesMember "roots" p.entry p.roots.values)

def jsonSizeBytes (v : Json) : Nat := bytes Scalar.text v

/-! ## Limits -/

/-- The loop over siblings, and how many nodes it took; a step of it is `_limit_crush_node`. -/
def limitCrushNodes : Forest → Nat → Forest × Nat
  | .nil, _ => (.nil, 0)
  | .node _ _ _ _, 0 => (.nil, 0)
  | .node attrs _ children rest, remaining + 1 =>
    let kids := limitCrushNodes children remaining
    let used := 1 + kids.2
    let others := limitCrushNodes rest (remaining + 1 - used)
    (.node attrs none kids.1 others.1, used + others.2)

/-- `limited[key] = value` -/
def setKey (key : String) (value : Json) : List (String × Json) → List (String × Json)
  | [] => [(key, value)]
  | (k, v) :: members =>
    if k = key then (key, value) :: members else (k, v) :: setKey key value members

def limitCrushPayload (data : Payload) (maxNodes : Nat) : Payload where
  attrs := setKey "payload_truncated" (.atom (.bool true)) data.attrs
  entry := some .emptyList
  roots := (limitCrushNodes data.roots maxNodes).1

/-- The loop of the binary search. -/
def search (fits : Nat → Bool) (low high : Int) (best : Option Nat) : Option Nat :=
  if low ≤ high then
    let middle := (low + high) / 2
    if fits middle.toNat = true then search fits (middle + 1) high (some middle.toNat)
    else search fits low (middle - 1) best
  else best
termination_by (high + 1 - low).toNat
decreasing_by all_goals omega

structure LimitsRecord where
  originalBytes : Nat
  storedBytes : Nat
  maxBytes : Nat
  maxItems : Nat
deriving DecidableEq, Repr

/-- `data.get(key)`, as it is copied into another payload. -/
def getKey (key : String) (members : List (String × Json)) : Json :=
  ((members.find? fun m => m.1 = key).map Prod.snd).getD (.atom .null)

/-- Where not even a payload without nodes fits. -/
def emptyPayload (data : Payload) : Payload where
  attrs := [("state", getKey "state" data.attrs), ("rules", .arr []),
    ("payload_truncated", .atom (.bool true))]
  entry := some .emptyList
  roots := .nil

def boundSectionPayload (data : Payload) (maxItems maxBytes : Nat) :
    Payload × Option LimitsRecord :=
  let originalBytes := jsonSizeBytes data.value
  let candidate := limitCrushPayload data maxItems
  let record (p : Payload) : LimitsRecord :=
    ⟨originalBytes, jsonSizeBytes p.value, maxBytes, maxItems⟩
  if maxBytes < jsonSizeBytes candidate.value then
    let fits (n : Nat) : Bool := jsonSizeBytes (limitCrushPayload data n).value ≤ maxBytes
    let best :=
      ((search fits 0 maxItems none).map (limitCrushPayload data)).getD (emptyPayload data)
    (best, some (record best))
  else if jsonSizeBytes candidate.value < originalBytes then (candidate, some (record candidate))
  else (data, none)

/-! ## The law -/

/-- A record of limits exactly if a node was dropped; and the payload is the first nodes of the
input, or the input. -/
structure Bounded (maxItems : Nat) (data : Payload) (out : Payload × Option LimitsRecord) :
    Prop where
  leading : ∃ n, out.1.roots.preorder 0 = (data.roots.preorder 0).take n
  atMost : out.1.roots.count ≤ maxItems
  reported : out.2.isSome = true ↔ out.1.roots.count < data.roots.count
  marked : out.2.isSome = true → ("payload_truncated", .atom (.bool true)) ∈ out.1.attrs
  unchanged : out.2 = none → out.1 = data

/-- The bytes of a member; the only one of an object has no comma. -/
def alone (attrs : List (String × Json)) (n : Nat) : Nat := if attrs = [] then n - 1 else n

/-- The bytes of the nodes behind the first ones, and of what the others have under `children`
where there are no nodes. -/
def Forest.spared : Forest → Nat → Nat
  | .nil, _ => 0
  | .node attrs entry children rest, 0 =>
    itemBytes Scalar.text (Forest.node attrs entry children rest).values
  | .node attrs entry children rest, remaining + 1 =>
    (match children, remaining with
      | .nil, _ => alone attrs (memberBytes Scalar.text (nodesMember "children" entry []))
      | .node _ _ _ _, 0 =>
        alone attrs (memberBytes Scalar.text (nodesMember "children" entry children.values))
      | .node _ _ _ _, _ + 1 => children.spared remaining) +
    rest.spared (remaining - children.count)

/-- The bytes that bounding takes out: those, an earlier mark and what is under `roots` where there
are no nodes. -/
def sparedBytes (data : Payload) (maxItems : Nat) : Nat :=
  (((data.attrs.find? fun m => m.1 = "payload_truncated").map fun m =>
      jsonSizeBytes m.2).getD 0) +
    match data.roots with
    | .nil => (data.entry.map fun v => jsonSizeBytes v.value).getD 0
    | .node _ _ _ _ => data.roots.spared maxItems

/-- The bytes that it brings in: the mark, and an empty list of roots. -/
def addedBytes (data : Payload) : Nat :=
  (if (data.attrs.find? fun m => m.1 = "payload_truncated").isSome = true then 4 else 25) +
    match data.roots, data.entry with
    | .nil, none => alone data.attrs 11
    | .nil, some _ => 2
    | .node _ _ _ _, _ => 0

/-! ## The first nodes -/

section

-- the equations, made once for all the proofs that use them
attribute [local simp] limitCrushNodes Forest.count Forest.values Forest.preorder Forest.spared
  setKey

end

section

variable (f : Forest)

theorem limitCrushNodes_used (remaining : Nat) :
    (limitCrushNodes f remaining).2 = min remaining f.count := by
  induction f generalizing remaining with
  | nil => rw [limitCrushNodes, Forest.count, Nat.min_zero]
  | node attrs entry children rest ihchildren ihrest =>
    cases remaining with
    | zero => rw [limitCrushNodes, Nat.zero_min]
    | succ remaining =>
      simp only [limitCrushNodes, Forest.count, ihchildren, ihrest]
      omega

theorem count_limitCrushNodes (remaining : Nat) :
    (limitCrushNodes f remaining).1.count = min remaining f.count := by
  induction f generalizing remaining with
  | nil => rw [limitCrushNodes, Forest.count, Nat.min_zero]
  | node attrs entry children rest ihchildren ihrest =>
    cases remaining with
    | zero => rw [limitCrushNodes, Forest.count, Nat.zero_min]
    | succ remaining =>
      simp only [limitCrushNodes, Forest.count, limitCrushNodes_used, ihchildren, ihrest]
      omega

theorem length_preorder (depth : Nat) : (f.preorder depth).length = f.count := by
  induction f generalizing depth with
  | nil => rfl
  | node attrs entry children rest ihchildren ihrest =>
    rw [Forest.preorder, Forest.count, List.length_cons, List.length_append, ihchildren, ihrest]
    omega

/-- **The rebuilt forest is the pre-order prefix.** -/
theorem preorder_limitCrushNodes (remaining depth : Nat) :
    (limitCrushNodes f remaining).1.preorder depth = (f.preorder depth).take remaining := by
  induction f generalizing remaining depth with
  | nil => rw [limitCrushNodes, Forest.preorder, List.take_nil]
  | node attrs entry children rest ihchildren ihrest =>
    cases remaining with
    | zero => rw [limitCrushNodes, Forest.preorder, List.take_zero]
    | succ remaining =>
      simp only [limitCrushNodes, Forest.preorder, limitCrushNodes_used, ihchildren, ihrest,
        List.take_succ_cons, List.take_append, length_preorder]
      have hleft : remaining + 1 - (1 + min remaining children.count) =
        remaining - children.count := by omega
      rw [hleft]

end

variable {maxItems n : Nat}

theorem limitCrushNodes_of_le (f : Forest) {m : Nat} (hn : f.count ≤ n) (hm : f.count ≤ m) :
    (limitCrushNodes f n).1 = (limitCrushNodes f m).1 := by
  induction f generalizing n m with
  | nil => rw [limitCrushNodes, limitCrushNodes]
  | node attrs entry children rest ihchildren ihrest =>
    rw [Forest.count] at hn hm
    obtain ⟨n, rfl⟩ : ∃ n', n = n' + 1 := ⟨n - 1, by omega⟩
    obtain ⟨m, rfl⟩ : ∃ m', m = m' + 1 := ⟨m - 1, by omega⟩
    simp only [limitCrushNodes, limitCrushNodes_used]
    have hkids : (limitCrushNodes children n).1 = (limitCrushNodes children m).1 :=
      ihchildren (by omega) (by omega)
    have hothers : (limitCrushNodes rest (n + 1 - (1 + min n children.count))).1 =
        (limitCrushNodes rest (m + 1 - (1 + min m children.count))).1 :=
      ihrest (by omega) (by omega)
    rw [hkids, hothers]

/-! ## Sizes -/

theorem memberBytes_nodesMember {key : String} {entry : Option Falsy} {nodes : List Json}
    (h : nodes ≠ []) :
    memberBytes Scalar.text (nodesMember key entry nodes) =
      utf8Bytes (quote key) + itemBytes Scalar.text nodes + 3 := by
  cases nodes with
  | nil => exact absurd rfl h
  | cons v nodes =>
    rw [nodesMember, memberBytes_cons, memberBytes_nil, bytes_arr, itemBytes_cons]
    simp only
    omega

theorem bytes_obj_append (attrs members : List (String × Json)) :
    jsonSizeBytes (.obj (attrs ++ members)) =
      jsonSizeBytes (.obj attrs) + alone attrs (memberBytes Scalar.text members) := by
  unfold jsonSizeBytes alone
  rw [bytes_obj, bytes_obj, memberBytes_append]
  cases attrs with
  | nil =>
    rw [memberBytes_nil, if_pos rfl]
    cases members with
    | nil => rfl
    | cons m members =>
      rw [memberBytes_cons]
      omega
  | cons a attrs =>
    rw [memberBytes_cons, if_neg (List.cons_ne_nil _ _)]
    omega

section

variable (attrs : List (String × Json))

theorem values_ne_nil (entry : Option Falsy)
    (children rest : Forest) : (Forest.node attrs entry children rest).values ≠ [] :=
  List.cons_ne_nil _ _

theorem alone_nodesMember (key : String) (entry entry' : Option Falsy) {nodes nodes' : List Json}
    {spared : Nat} (h : nodes ≠ []) (h' : nodes' ≠ [])
    (hspared : itemBytes Scalar.text nodes' + spared = itemBytes Scalar.text nodes) :
    alone attrs (memberBytes Scalar.text (nodesMember key entry' nodes')) + spared =
      alone attrs (memberBytes Scalar.text (nodesMember key entry nodes)) := by
  rw [memberBytes_nodesMember h, memberBytes_nodesMember h']
  unfold alone
  split <;> omega

theorem alone_zero : alone attrs 0 = 0 := by
  unfold alone
  split <;> rfl

end

theorem itemBytes_limitCrushNodes (f : Forest) (remaining : Nat) :
    itemBytes Scalar.text (limitCrushNodes f remaining).1.values + f.spared remaining =
      itemBytes Scalar.text f.values := by
  induction f generalizing remaining with
  | nil => rw [limitCrushNodes, Forest.spared, Nat.add_zero]
  | node attrs entry children rest ihchildren ihrest =>
    cases remaining with
    | zero => rw [limitCrushNodes, Forest.spared, Forest.values, itemBytes_nil, Nat.zero_add]
    | succ remaining =>
      have hleft : remaining + 1 - (1 + min remaining children.count) =
        remaining - children.count := by omega
      have hrest := ihrest (remaining - children.count)
      simp only [limitCrushNodes, limitCrushNodes_used, hleft, Forest.values, itemBytes_cons]
      have hlimited := bytes_obj_append attrs
        (nodesMember "children" none (limitCrushNodes children remaining).1.values)
      have hnode := bytes_obj_append attrs (nodesMember "children" entry children.values)
      unfold jsonSizeBytes at hlimited hnode
      rw [hlimited, hnode]
      have hnone : alone attrs (memberBytes Scalar.text []) = 0 := alone_zero attrs
      cases children with
      | nil =>
        have hkids : nodesMember "children" none
            (limitCrushNodes .nil remaining).1.values = [] := by
          rw [limitCrushNodes]
          rfl
        rw [hkids, hnone]
        simp only [Forest.spared, Forest.values]
        omega
      | node attrs' entry' children' rest' =>
        cases remaining with
        | zero =>
          have hkids : nodesMember "children" none
              (limitCrushNodes (.node attrs' entry' children' rest') 0).1.values = [] := by
            rw [limitCrushNodes]
            rfl
          rw [hkids, hnone]
          simp only [Forest.spared]
          omega
        | succ remaining =>
          have hmember := alone_nodesMember attrs "children" entry none
            (values_ne_nil attrs' entry' children' rest')
            (by simp only [limitCrushNodes]; exact values_ne_nil _ _ _ _)
            (ihchildren (remaining + 1))
          simp only [Forest.spared] at hmember ⊢
          omega

theorem memberBytes_setKey (key : String) (value : Json) (members : List (String × Json)) :
    memberBytes Scalar.text (setKey key value members) +
        ((members.find? fun m => m.1 = key).map fun m => jsonSizeBytes m.2).getD 0 =
      memberBytes Scalar.text members + jsonSizeBytes value +
        if (members.find? fun m => m.1 = key).isSome = true then 0
        else utf8Bytes (quote key) + 2 := by
  induction members with
  | nil =>
    rw [setKey, memberBytes_cons, memberBytes_nil]
    simp only [List.find?_nil, Option.map_none, Option.getD_none, Option.isSome_none,
      Bool.false_eq_true, if_false, jsonSizeBytes]
    omega
  | cons m members ih =>
    obtain ⟨k, v⟩ := m
    by_cases hk : k = key
    · rw [setKey, if_pos hk, List.find?_cons_of_pos (by simpa using hk), memberBytes_cons,
        memberBytes_cons]
      simp only [Option.map_some, Option.getD_some, Option.isSome_some, if_true, hk,
        jsonSizeBytes]
      omega
    · rw [setKey, if_neg hk, List.find?_cons_of_neg (by simpa using hk), memberBytes_cons,
        memberBytes_cons]
      omega

theorem setKey_ne_nil (key : String) (value : Json) (members : List (String × Json)) :
    setKey key value members ≠ [] := by
  cases members with
  | nil => exact List.cons_ne_nil _ _
  | cons m members =>
    rw [setKey]
    split <;> exact List.cons_ne_nil _ _

theorem mem_setKey (key : String) (value : Json) (members : List (String × Json)) :
    (key, value) ∈ setKey key value members := by
  induction members with
  | nil => exact List.mem_cons_self
  | cons m members ih =>
    rw [setKey]
    split
    · exact List.mem_cons_self
    · exact List.mem_cons_of_mem _ ih

theorem bytes_marked (attrs : List (String × Json)) :
    jsonSizeBytes (.obj (setKey "payload_truncated" (.atom (.bool true)) attrs)) +
        ((attrs.find? fun m => m.1 = "payload_truncated").map fun m =>
          jsonSizeBytes m.2).getD 0 =
      memberBytes Scalar.text attrs + 1 +
        if (attrs.find? fun m => m.1 = "payload_truncated").isSome = true then 4 else 25 := by
  have hmark := memberBytes_setKey "payload_truncated" (.atom (.bool true)) attrs
  have htrue : jsonSizeBytes (.atom (.bool true)) = 4 := rfl
  have hquote : utf8Bytes (quote "payload_truncated") = 19 := rfl
  rw [htrue, hquote] at hmark
  have hpos : 2 ≤ memberBytes Scalar.text
      (setKey "payload_truncated" (.atom (.bool true)) attrs) := by
    obtain ⟨m, members, hcons⟩ := List.exists_cons_of_ne_nil
      (setKey_ne_nil "payload_truncated" (.atom (.bool true)) attrs)
    rw [hcons, memberBytes_cons]
    omega
  have hobj : jsonSizeBytes (.obj (setKey "payload_truncated" (.atom (.bool true)) attrs)) =
      memberBytes Scalar.text (setKey "payload_truncated" (.atom (.bool true)) attrs) + 1 := by
    rw [jsonSizeBytes, bytes_obj]
    omega
  rw [hobj]
  split at hmark
  · rename_i hsome
    rw [if_pos hsome]
    omega
  · rename_i hnone
    rw [if_neg hnone]
    omega

theorem bytes_obj_alone (attrs : List (String × Json)) (h : 0 < n) :
    jsonSizeBytes (.obj attrs) + alone attrs n = memberBytes Scalar.text attrs + 1 + n := by
  unfold jsonSizeBytes alone
  rw [bytes_obj]
  cases attrs with
  | nil =>
    rw [memberBytes_nil, if_pos rfl]
    omega
  | cons a attrs =>
    rw [memberBytes_cons, if_neg (List.cons_ne_nil _ _)]
    omega

theorem alone_setKey (key : String) (value : Json) (members : List (String × Json)) (n : Nat) :
    alone (setKey key value members) n = n :=
  if_neg (setKey_ne_nil key value members)

/-- **The sizes of the payload and of the rebuilt one.** -/
theorem bytes_limit (data : Payload) (h : 0 < maxItems) :
    jsonSizeBytes (limitCrushPayload data maxItems).value + sparedBytes data maxItems =
      jsonSizeBytes data.value + addedBytes data := by
  obtain ⟨attrs, entry, roots⟩ := data
  have hmarked := bytes_marked attrs
  have hroots : utf8Bytes (quote "roots") = 7 := rfl
  simp only [limitCrushPayload, Payload.value, sparedBytes, addedBytes, bytes_obj_append,
    alone_setKey]
  cases roots with
  | nil =>
    have hempty : bytes Scalar.text (Falsy.value .emptyList) = 2 := rfl
    simp only [limitCrushNodes, Forest.values, nodesMember, Option.toList_some, List.map_cons,
      List.map_nil, memberBytes_cons, memberBytes_nil, hroots, hempty]
    cases entry with
    | none =>
      have hlist := bytes_obj_alone attrs (n := 11) (by decide)
      simp only [Option.toList_none, List.map_nil, memberBytes_nil, Option.map_none,
        Option.getD_none, alone_zero]
      omega
    | some v =>
      have hlist := bytes_obj_alone attrs (n := 7 + jsonSizeBytes v.value + 2) (by omega)
      simp only [Option.toList_some, List.map_cons, List.map_nil, memberBytes_cons,
        memberBytes_nil, Option.map_some, Option.getD_some, hroots, Nat.add_zero]
      have hentry : bytes Scalar.text v.value = jsonSizeBytes v.value := rfl
      rw [hentry]
      omega
  | node attrs' entry' children rest =>
    obtain ⟨maxItems, rfl⟩ : ∃ n, maxItems = n + 1 := ⟨maxItems - 1, by omega⟩
    have hspared := itemBytes_limitCrushNodes (.node attrs' entry' children rest) (maxItems + 1)
    have hne := values_ne_nil attrs' entry' children rest
    have hlimited :
        (limitCrushNodes (.node attrs' entry' children rest) (maxItems + 1)).1.values ≠ [] := by
      simp only [limitCrushNodes]
      exact values_ne_nil _ _ _ _
    have hlist := bytes_obj_alone attrs (n := 7 + itemBytes Scalar.text
      (Forest.node attrs' entry' children rest).values + 3) (by omega)
    rw [memberBytes_nodesMember hne, memberBytes_nodesMember hlimited, hroots]
    dsimp only
    omega

/-! ## The search -/

theorem search_fits (fits : Nat → Bool) (low high : Int) (best : Option Nat) (hlow : 0 ≤ low)
    (h : search fits low high best = some n) :
    best = some n ∨ fits n = true ∧ (n : Int) ≤ high := by
  induction low, high, best using search.induct fits with
  | case1 low high best hle middle hfits ih =>
    rw [search, if_pos hle, if_pos hfits] at h
    rcases ih (by omega) h with hbest | hlater
    · cases hbest
      exact .inr ⟨hfits, by omega⟩
    · exact .inr hlater
  | case2 low high best hle middle hfits ih =>
    rw [search, if_pos hle, if_neg hfits] at h
    rcases ih hlow h with hbest | ⟨hn, hhigh⟩
    · exact .inl hbest
    · exact .inr ⟨hn, by omega⟩
  | case3 low high best hle =>
    rw [search, if_neg hle] at h
    exact .inl h

/-! ## The bounded payload -/

theorem bounded_limit {data : Payload} (hn : n ≤ maxItems) (hdrop : n < data.roots.count)
    (record : LimitsRecord) :
    Bounded maxItems data (limitCrushPayload data n, some record) where
  leading := ⟨n, preorder_limitCrushNodes data.roots n 0⟩
  atMost := by
    show (limitCrushNodes data.roots n).1.count ≤ maxItems
    rw [count_limitCrushNodes]
    omega
  reported := by
    show true = true ↔ (limitCrushNodes data.roots n).1.count < data.roots.count
    rw [count_limitCrushNodes]
    exact iff_of_true rfl (by omega)
  marked := fun _ => mem_setKey _ _ _
  unchanged := fun h => (nomatch h)

theorem bounded_empty (data : Payload) (hnodes : 0 < data.roots.count) (record : LimitsRecord) :
    Bounded maxItems data (emptyPayload data, some record) where
  leading := ⟨0, rfl⟩
  atMost := Nat.zero_le maxItems
  reported := iff_of_true rfl hnodes
  marked := fun _ => List.mem_cons_of_mem _ (List.mem_cons_of_mem _ List.mem_cons_self)
  unchanged := fun h => (nomatch h)

/-- **The payload is bounded** and truncation is reported exactly when a node is dropped: where the
rebuilt payload fits, exactly if more bytes are taken out than brought in when there are more nodes
than the limit, and only then; where it does not, exactly if there is a node. -/
theorem bounded_iff (data : Payload) (maxItems maxBytes : Nat) (h : 0 < maxItems) :
    Bounded maxItems data (boundSectionPayload data maxItems maxBytes) ↔
      if jsonSizeBytes data.value + addedBytes data ≤ maxBytes + sparedBytes data maxItems then
        (addedBytes data < sparedBytes data maxItems ↔ maxItems < data.roots.count)
      else 0 < data.roots.count := by
  have hbytes := bytes_limit data h
  have hcount := count_limitCrushNodes data.roots maxItems
  have hfit : jsonSizeBytes data.value + addedBytes data ≤ maxBytes + sparedBytes data maxItems ↔
      ¬maxBytes < jsonSizeBytes (limitCrushPayload data maxItems).value := by omega
  simp only [hfit]
  unfold boundSectionPayload
  by_cases hover : maxBytes < jsonSizeBytes (limitCrushPayload data maxItems).value
  · rw [if_pos hover, if_neg (not_not.mpr hover)]
    constructor
    · intro hbounded
      have hreported := hbounded.reported.mp rfl
      omega
    · intro hnodes
      dsimp only
      cases hsearch : search (fun n => jsonSizeBytes (limitCrushPayload data n).value ≤ maxBytes) 0
          maxItems none with
      | none =>
        exact bounded_empty data hnodes _
      | some n =>
        obtain hbest | ⟨hfits, hle⟩ := search_fits _ _ _ _ (Int.le_refl 0) hsearch
        · cases hbest
        · apply bounded_limit (by omega)
          -- with as many nodes as there are it would be the payload that does not fit
          by_contra hall
          have hsame := limitCrushNodes_of_le data.roots (Nat.not_lt.mp hall)
            (Nat.le_trans (Nat.not_lt.mp hall) (by omega : n ≤ maxItems))
          have hfits := of_decide_eq_true hfits
          unfold limitCrushPayload at hfits hover
          rw [hsame] at hfits
          omega
  · rw [if_neg hover, if_pos hover]
    by_cases hless : jsonSizeBytes (limitCrushPayload data maxItems).value <
        jsonSizeBytes data.value
    · rw [if_pos hless]
      constructor
      · intro hbounded
        have hreported := hbounded.reported.mp rfl
        simp only [limitCrushPayload] at hreported
        omega
      · intro hiff
        exact bounded_limit (Nat.le_refl _) (hiff.mp (by omega)) _
    · rw [if_neg hless]
      constructor
      · intro hbounded
        have hatMost := hbounded.atMost
        simp only at hatMost
        omega
      · intro hiff
        have hfew : ¬maxItems < data.roots.count := fun hmore => by
          have := hiff.mpr hmore
          omega
        exact ⟨⟨data.roots.count, by rw [List.take_of_length_le (by rw [length_preorder])]⟩,
          by simp only; omega, by simp, fun h => (nomatch h), fun _ => rfl⟩

/-- Two OSDs as `{"id": 1, "children": []}`. -/
def twoLeaves : Payload where
  attrs := [("state", .str "ok")]
  entry := none
  roots := .node [("id", .atom (.number ['1']))] (some .emptyList) .nil
    (.node [("id", .atom (.number ['2']))] (some .emptyList) .nil .nil)

/-- Two nodes without any key. -/
def twoBlank : Payload where
  attrs := [("state", .str "ok")]
  entry := none
  roots := .node [] none .nil (.node [] none .nil .nil)

/-- Truncation is reported where no node was dropped, and a payload with more nodes than the limit
is returned as it is. -/
theorem cut_misread :
    ((boundSectionPayload twoLeaves 100 1000).2 = some ⟨70, 67, 1000, 100⟩ ∧
        ¬Bounded 100 twoLeaves (boundSectionPayload twoLeaves 100 1000)) ∧
      (boundSectionPayload twoBlank 1 1000).2 = none ∧
        ¬Bounded 1 twoBlank (boundSectionPayload twoBlank 1 1000) := by
  refine ⟨⟨by decide, fun h => ?_⟩, by decide, fun h => ?_⟩
  · exact absurd (h.reported.mp (by decide)) (by decide)
  · exact absurd h.atMost (by decide)

def rootAndLeaf : Payload where
  attrs := [("state", .str "ok")]
  entry := none
  roots := .node [("type", .str "root")] none
    (.node [("id", .atom (.number ['7'])), ("type", .str "osd")] none .nil .nil) .nil

theorem bounded_iff_cut : Bounded 1 rootAndLeaf (boundSectionPayload rootAndLeaf 1 1000) :=
  (bounded_iff rootAndLeaf 1 1000 (by decide)).mpr (by decide)

end CephAi.Ports.CrushPayload
