import ClusterQuery.Proofs.Path.Nodes
import ClusterQuery.Proofs.Path.Printing

/-! Numbers between dots. What stands behind a key of a path is read apart from the key, so that a path goes on behind
    digits as it does behind any other key. In a list digits are the place of an element, counted from 1. In an object
    they are a key, but the one that their number is written with, unless the number is beyond a word: zeros in front are
    lost, and with them the key that was spelled. -/

namespace ClusterQuery

open Nesting

namespace Path

variable {key digits tail : List Char}

/-! ### Behind a key -/

/-- A text that a path can begin with as its first key. -/
structure IsFieldText (cs : List Char) : Prop where
  key : IsKeyText cs
  dot : '.' ∉ cs
  head : ∀ c ∈ cs.head?, isBlank c = false

instance (cs : List Char) : Decidable (IsFieldText cs) :=
  decidable_of_iff (IsKeyText cs ∧ '.' ∉ cs ∧ ∀ c ∈ cs.head?, isBlank c = false)
    ⟨fun h => ⟨h.1, h.2.1, h.2.2⟩, fun h => ⟨h.key, h.dot, h.head⟩⟩

/-- What may stand behind a key between dots: subscripts of the key, and more segments. -/
structure Continuation where
  subs : List Char
  segs : List (List Char)
  /-- The steps of the subscripts. -/
  near : List Step
  /-- The steps of the segments. -/
  far : List Step
  bracket : ∀ c ∈ subs.head?, c = '['
  solid : ∀ piece ∈ subs :: segs, Solid '.' piece
  read_subs : subscripts subs = .ok near
  read_segs : segments segs = .ok far

/-- The end of a text that goes on so. -/
def Continuation.text (k : Continuation) : List Char := joinWith ['.'] (k.subs :: k.segs)

def Continuation.steps (k : Continuation) : List Step := k.near ++ k.far

/-- What stands behind the key that a path begins with. -/
theorem exists_continuation {other : String} {more : List Step}
    (h : parse (other.toList ++ tail) = .ok ⟨.key other :: more⟩) :
    ∃ k : Continuation, trimEnd tail = k.text ∧ k.steps = more := by
  obtain ⟨-, pieces, hpieces, hsteps⟩ := parse_eq_ok_iff.mp h
  obtain ⟨hne, hsolid, hjoin⟩ := (splitTopLevel_eq_some_iff isPlain_dot).mp hpieces
  obtain ⟨first, segs, rfl⟩ := List.exists_cons_of_ne_nil hne
  obtain ⟨hfirst, hsegs⟩ := List.forall_mem_cons.mp hsolid
  obtain ⟨parts, hparts, hflat⟩ := segments_eq_ok_iff.mp hsteps
  obtain ⟨part, rest, hpart, hrest, rfl⟩ := List.forall₂_cons_left_iff.mp hparts
  obtain ⟨hkey, near, hnear, rfl⟩ := segment_eq_ok_iff.mp hpart
  obtain ⟨hbase, hmore⟩ := List.cons.inj hflat
  have hfar : segments segs = .ok rest.flatten := segments_eq_ok_iff.mpr ⟨rest, hrest, rfl⟩
  have hother := toList_of_keyStep hbase.symm
  have hcut : first = other.toList ++ first.dropWhile (· != '[') := by
    rw [hother, List.takeWhile_append_dropWhile]
  -- The key ends where the first segment has its first bracket, and blanks are trimmed only behind all segments.
  refine ⟨⟨first.dropWhile (· != '['), segs, near, rest.flatten, fun c hc => ?_, ?_, hnear, hfar⟩, ?_, hmore.symm⟩
  · simpa using head?_dropWhile_neg _ first hc
  · refine List.forall_mem_cons.mpr ⟨?_, hsegs⟩
    have hwhole : Leads .ofLists (· == '.') outside (other.toList ++ first.dropWhile (· != '[')) := hcut ▸ hfirst
    exact hwhole.of_append_left (hother ▸ hkey.isPlain)
  · have hother_ne : other.toList ≠ [] := hother ▸ hkey.1
    refine trimEnd_eq_of_trim_append hother_ne ?_
    rw [← hjoin]
    exact (congrArg (fun piece => joinWith ['.'] (piece :: segs)) hcut).trans (joinWith_append_cons _ _ _ _)

theorem enclosed_append (inner after : List Char) : '[' :: (inner ++ ']' :: after) = '[' :: (inner ++ [']']) ++ after := by
  simp

namespace Continuation

theorem parse (k : Continuation) (hkey : IsFieldText key) (htext : trimEnd tail = k.text)
    (hlast : Blanks tail → ∀ c ∈ key.getLast?, isBlank c = false) :
    Path.parse (key ++ tail) = .ok ⟨keyStep key :: k.steps⟩ := by
  have htrim : trim (key ++ tail) = joinWith ['.'] ((key ++ k.subs) :: k.segs) := by
    rw [trim_append hkey.key.1 hkey.head hlast, htext, joinWith_append_cons, text]
  obtain ⟨hsubs, hsegs⟩ := List.forall_mem_cons.mp k.solid
  refine parse_eq_ok_iff.mpr ⟨?_, (key ++ k.subs) :: k.segs, ?_, ?_⟩
  · rw [trim_append hkey.key.1 hkey.head hlast]
    exact List.append_ne_nil_of_left_ne_nil hkey.key.1 _
  · rw [htrim]
    refine (splitTopLevel_eq_some_iff isPlain_dot).mpr ⟨List.cons_ne_nil _ _, ?_, rfl⟩
    exact List.forall_mem_cons.mpr ⟨(hkey.key.solid hkey.dot).append hsubs, hsegs⟩
  · rw [segments, segment_append hkey.key k.bracket k.read_subs, k.read_segs]
    rfl

/-- Another key in front, behind a dot. -/
def behindDot (k : Continuation) (hkey : IsKeyText key) (hdot : '.' ∉ key) : Continuation where
  subs := []
  segs := (key ++ k.subs) :: k.segs
  near := []
  far := keyStep key :: k.steps
  bracket := by simp
  solid := by
    obtain ⟨hsubs, hsegs⟩ := List.forall_mem_cons.mp k.solid
    exact List.forall_mem_cons.mpr ⟨.nil, List.forall_mem_cons.mpr ⟨(hkey.solid hdot).append hsubs, hsegs⟩⟩
  read_subs := by rw [subscripts]
  read_segs := by
    rw [segments, segment_append hkey k.bracket k.read_subs, k.read_segs]
    rfl

/-- A subscript in front. -/
def behindBracket (k : Continuation) {inner : List Char} {s : Step} (hinner : Closes inner)
    (hread : subscript (trim inner) = .ok s) : Continuation where
  subs := '[' :: (inner ++ ']' :: k.subs)
  segs := k.segs
  near := s :: k.near
  far := k.far
  bracket := fun _ hc => (Option.some.inj hc).symm
  solid := by
    obtain ⟨hsubs, hsegs⟩ := List.forall_mem_cons.mp k.solid
    refine List.forall_mem_cons.mpr ⟨?_, hsegs⟩
    rw [enclosed_append]
    exact (hinner.leads rfl).append hsubs
  read_subs := by
    rw [subscripts_eq_of_closeBracket (hinner.closeBracket k.subs), hread, k.read_subs]
    rfl
  read_segs := k.read_segs

theorem text_behindDot (k : Continuation) (hkey : IsKeyText key) (hdot : '.' ∉ key) :
    (k.behindDot hkey hdot).text = '.' :: (key ++ k.text) := by
  show joinWith ['.'] ([] :: (key ++ k.subs) :: k.segs) = _
  rw [joinWith_cons_of_ne_nil (List.cons_ne_nil _ _), joinWith_append_cons]
  rfl

theorem text_behindBracket (k : Continuation) {inner : List Char} {s : Step} (hinner : Closes inner)
    (hread : subscript (trim inner) = .ok s) : (k.behindBracket hinner hread).text = '[' :: (inner ++ ']' :: k.text) := by
  show joinWith ['.'] (('[' :: (inner ++ ']' :: k.subs)) :: k.segs) = _
  rw [enclosed_append inner k.subs, joinWith_append_cons, ← enclosed_append]
  rfl

end Continuation

section Behind

variable {other : String} {more : List Step}

/-- What stands behind one key of a path may stand behind another key and a number. -/
theorem parse_behind_dot (hkey : IsFieldText key) (hdigits : IsDigits digits)
    (htail : parse (other.toList ++ tail) = .ok ⟨.key other :: more⟩) :
    parse (key ++ '.' :: (digits ++ tail)) = .ok ⟨keyStep key :: keyStep digits :: more⟩ := by
  obtain ⟨k, htext, rfl⟩ := exists_continuation htail
  obtain ⟨hdigit, hdot, -⟩ := isKeyText_of_isDigits hdigits
  refine (k.behindDot hdigit hdot).parse hkey ?_ fun hblanks => nomatch hblanks '.' List.mem_cons_self
  have hlast : ∀ c ∈ ('.' :: digits).getLast?, isBlank c = false := fun c hc => by
    rw [List.getLast?_cons_of_ne_nil hdigits.1] at hc
    exact isBlank_of_isDigits hdigits c (List.mem_of_getLast? hc)
  rw [k.text_behindDot hdigit hdot, ← htext]
  exact trimEnd_append fun _ => hlast

theorem parse_behind_bracket {inner : List Char} {s : Step} (hkey : IsFieldText key) (hinner : Closes inner)
    (hread : subscript (trim inner) = .ok s) (htail : parse (other.toList ++ tail) = .ok ⟨.key other :: more⟩) :
    parse (key ++ '[' :: (inner ++ ']' :: tail)) = .ok ⟨keyStep key :: s :: more⟩ := by
  obtain ⟨k, htext, rfl⟩ := exists_continuation htail
  refine (k.behindBracket hinner hread).parse hkey ?_ fun hblanks => nomatch hblanks '[' List.mem_cons_self
  rw [k.text_behindBracket hinner hread, ← htext, enclosed_append inner tail, enclosed_append inner (trimEnd tail)]
  exact trimEnd_append fun _ c hc => by
    rw [← List.cons_append, List.getLast?_append_of_ne_nil _ (List.cons_ne_nil _ _)] at hc
    exact Option.some.inj hc ▸ rfl

end Behind

/-! ### Digits as a step -/

/-- The step of digits in brackets: a place, or a key if their number is beyond a word. -/
def bracketStep (digits : List Char) : Step :=
  if digitsValue 0 digits < wordLimit then .index (digitsValue 0 digits) else .mapKey (String.ofList digits)

theorem subscript_of_isDigits (h : IsDigits digits) : subscript (trim digits) = .ok (bracketStep digits) := by
  have hnumber := number?_of_isDigits h
  rw [trim_eq_self (trimmed_of_not_blank (isBlank_of_isDigits h))]
  unfold bracketStep
  split at hnumber
  · next hlt => rw [if_pos hlt, subscript_of_number hnumber]
  · next hlt =>
    have hstar : digits ≠ ['*'] := fun he => nomatch h.2 '*' (he ▸ List.mem_cons_self)
    have hquote : ∀ c ∈ digits, isQuote c = false := fun c hc => by
      have : c ∉ ['\'', '"'] := not_mem_of_all (h.2 c hc) (by decide)
      simpa [isQuote] using this
    rw [if_neg hlt, subscript_of_key h.1 hstar hnumber (unquote_eq_self hquote) h.1]

/-- The key that digits between dots are in an object: what their number is written with if it is one of a word, or the
    digits themselves. -/
def numberKey (digits : List Char) : List Char :=
  if digitsValue 0 digits < wordLimit then Nat.toDigits 10 (digitsValue 0 digits) else digits

/-- Whether zeros stand in front of other digits, and are lost as the number is one of a word. -/
def LosesZeros (digits : List Char) : Prop :=
  digits.head? = some '0' ∧ digits ≠ ['0'] ∧ digitsValue 0 digits < wordLimit

instance (digits : List Char) : Decidable (LosesZeros digits) := inferInstanceAs (Decidable (_ ∧ _ ∧ _))

theorem numberKey_eq_iff (h : IsDigits digits) : numberKey digits = digits ↔ ¬LosesZeros digits := by
  unfold numberKey LosesZeros
  split
  · next hlt =>
    rw [toDigits_digitsValue_iff h]
    tauto
  · next hlt => exact iff_of_true rfl fun hloses => hlt hloses.2.2

theorem isDigits_numberKey (h : IsDigits digits) : IsDigits (numberKey digits) := by
  unfold numberKey
  split
  · exact isDigits_toDigits _
  · exact h

theorem keyStep_of_isDigits (h : IsDigits digits) :
    keyStep digits = if digitsValue 0 digits < wordLimit then .position (digitsValue 0 digits)
      else .key (String.ofList digits) := by
  by_cases hlt : digitsValue 0 digits < wordLimit
  · rw [keyStep, number?_of_isDigits h, if_pos hlt, if_pos hlt]
  · rw [keyStep, number?_of_isDigits h, if_neg hlt, if_neg hlt]

theorem part?_object_of_isDigits (h : IsDigits digits) (fields : List (String × Json)) :
    (keyStep digits).part? (.object fields) = Json.lookup (String.ofList (numberKey digits)) fields := by
  rw [keyStep_of_isDigits h, numberKey]
  split
  · cases digitsValue 0 digits <;> rfl
  · rfl

theorem part?_array_of_isDigits (h : IsDigits digits) {items : List Json} (hitems : items.length < wordLimit) :
    (keyStep digits).part? (.array items) =
      if digitsValue 0 digits = 0 then none else items[digitsValue 0 digits - 1]? := by
  rw [keyStep_of_isDigits h]
  split
  · cases digitsValue 0 digits <;> rfl
  · next hbeyond =>
    -- The digits are a key, but a number beyond a word is no place in the list either.
    rw [if_neg (by omega), List.getElem?_eq_none (by omega)]
    rfl

theorem part?_array_bracketStep (digits : List Char) {items : List Json} (hitems : items.length < wordLimit) :
    (bracketStep digits).part? (.array items) = items[digitsValue 0 digits]? := by
  unfold bracketStep
  split
  · rfl
  · rw [List.getElem?_eq_none (by omega)]
    rfl

/-! ### What is read at a step -/

/-- A path to an entry of the labels or annotations has three steps, the first two of which are known keys. -/
theorem steps_of_isMetadataEntry {p : Path} (h : p.isMetadataEntry = true) :
    ∃ kind last, p.steps = [.key "metadata", .key kind, last] ∧ (kind = "labels" ∨ kind = "annotations") := by
  unfold isMetadataEntry at h
  split at h
  · next kind name hsteps => exact ⟨kind, _, hsteps, by simpa using h⟩
  · next kind name hsteps => exact ⟨kind, _, hsteps, by simpa using h⟩
  · cases h

theorem extract_eq_none_iff {p : Path} {doc : Document} :
    p.extract doc = none ↔ follow p.steps doc = .absent ∨ follow p.steps doc = .one .null := by
  unfold extract
  split
  · next h => simp [h]
  · next h => simp [h]
  · next h => split <;> simp [h, Value.ofJson?]
  · next node _ h => cases node <;> simp [h, Value.ofJson?]

end Path

/-- A step that digits can be read as. -/
def Step.IsNumeral : Step → Prop
  | .key name => IsDigits name.toList
  | .wildcard => False
  | _ => True

section Numeral

variable {first s t : Step} {digits : List Char} {node : Json}

theorem Step.IsNumeral.ne_wildcard (h : s.IsNumeral) : s ≠ .wildcard := by
  rintro rfl
  exact h

theorem isNumeral_key (h : IsDigits digits) : (Step.key (String.ofList digits)).IsNumeral := by
  show IsDigits (String.ofList digits).toList
  rwa [String.toList_ofList]

theorem isNumeral_keyStep (h : IsDigits digits) : (Path.keyStep digits).IsNumeral := by
  rw [Path.keyStep_of_isDigits h]
  split
  · trivial
  · exact isNumeral_key h

theorem isNumeral_bracketStep (digits : List Char) : (Path.bracketStep digits).IsNumeral := by
  unfold Path.bracketStep
  split <;> trivial

/-- Digits are no key that an entry of the labels or annotations is read by. -/
theorem Step.IsNumeral.ne_key (h : s.IsNumeral) {name : String} (hname : ∃ c ∈ name.toList, isDigit c = false) :
    s ≠ .key name := by
  rintro rfl
  obtain ⟨c, hc, hdigit⟩ := hname
  rw [h.2 c hc] at hdigit
  cases hdigit

theorem Step.IsNumeral.isMetadataEntry_first (h : s.IsNumeral) (more : List Step) :
    (⟨s :: more⟩ : Path).isMetadataEntry = false := by
  refine Bool.eq_false_iff.mpr fun hentry => ?_
  obtain ⟨kind, last, hsteps, -⟩ := Path.steps_of_isMetadataEntry hentry
  exact h.ne_key ⟨'m', by decide, rfl⟩ (List.cons.inj hsteps).1

theorem Step.IsNumeral.isMetadataEntry_second (h : s.IsNumeral) (first : Step) (more : List Step) :
    (⟨first :: s :: more⟩ : Path).isMetadataEntry = false := by
  refine Bool.eq_false_iff.mpr fun hentry => ?_
  obtain ⟨kind, last, hsteps, hkind⟩ := Path.steps_of_isMetadataEntry hentry
  have hs : s = .key kind := (List.cons.inj (List.cons.inj hsteps).2).1
  rcases hkind with rfl | rfl
  · exact h.ne_key ⟨'l', by decide, rfl⟩ hs
  · exact h.ne_key ⟨'a', by decide, rfl⟩ hs

/-- Behind a first step, two steps that lead to one part read the same, whatever steps follow. -/
theorem extract_eq_of_part? {doc : Document} (hfirst : first ≠ .wildcard) (hs : s.IsNumeral) (ht : t.IsNumeral)
    (hnode : first.part? doc = some node) (hnull : node ≠ .null) (hpart : s.part? node = t.part? node)
    (more : List Step) : (⟨first :: s :: more⟩ : Path).extract doc = (⟨t :: more⟩ : Path).extract node := by
  have hfollow : follow (first :: s :: more) doc = follow (t :: more) node := by
    rw [follow_of_part? hfirst hnode hnull, follow_of_ne_wildcard hs.ne_wildcard, follow_of_ne_wildcard ht.ne_wildcard,
      hpart]
  unfold Path.extract
  rw [hfollow, hs.isMetadataEntry_second, ht.isMetadataEntry_first]

theorem exists_part? (hs : s ≠ .wildcard) (part : Json) : ∃ node, s.part? node = some part := by
  have hlookup (name : String) : Json.lookup name [(name, part)] = some part := by simp [Json.lookup]
  cases s with
  | wildcard => exact (hs rfl).elim
  | key name => exact ⟨.object [(name, part)], hlookup name⟩
  | mapKey name => exact ⟨.object [(name, part)], hlookup name⟩
  | position n =>
    refine ⟨.object [(String.ofList (Nat.toDigits 10 n), part)], ?_⟩
    cases n <;> exact hlookup _
  | index place =>
    refine ⟨.array (List.replicate place .null ++ [part]), ?_⟩
    show (List.replicate place Json.null ++ [part])[place]? = some part
    simp

theorem part?_null (s : Step) : s.part? .null = none := by
  cases s with
  | position n => cases n <;> rfl
  | _ => rfl

/-- All steps lead somewhere from some node. -/
theorem exists_reached (steps : List Step) :
    ∃ node, node ≠ .null ∧ follow steps node ≠ .absent ∧ follow steps node ≠ .one .null := by
  induction steps with
  | nil => exact ⟨.bool true, nofun, nofun, nofun⟩
  | cons s steps ih =>
    by_cases hs : s = .wildcard
    · subst hs
      exact ⟨.array [], nofun, nofun, nofun⟩
    · obtain ⟨part, hnull, hreached⟩ := ih
      obtain ⟨node, hnode⟩ := exists_part? hs part
      refine ⟨node, fun he => ?_, ?_⟩
      · rw [he, part?_null] at hnode
        cases hnode
      · rwa [follow_of_part? hs hnode hnull]

theorem key_ne_wildcard (name : String) : Step.key name ≠ .wildcard := by
  rintro ⟨⟩

/-- Keys that read the same of all objects are the same, whatever steps follow. -/
theorem eq_of_extract_key_eq {a b : String} {more : List Step}
    (h : ∀ fields, (⟨.key a :: more⟩ : Path).extract (.object fields) = (⟨.key b :: more⟩ : Path).extract (.object fields)) :
    a = b := by
  by_contra hne
  obtain ⟨node, hnull, habsent, hnone⟩ := exists_reached more
  -- An object that has the second key only.
  have hlost : follow (.key a :: more) (.object [(b, node)]) = .absent := by
    have hpart : (Step.key a).part? (.object [(b, node)]) = none := by simp [Step.part?, Json.lookup, Ne.symm hne]
    rw [follow_of_ne_wildcard (key_ne_wildcard a), hpart]
  have hfound : follow (.key b :: more) (.object [(b, node)]) = follow more node :=
    follow_of_part? (key_ne_wildcard b) (by simp [Step.part?, Json.lookup]) hnull more
  have hread := h [(b, node)]
  rw [Path.extract_eq_none_iff.mpr (.inl hlost)] at hread
  rcases Path.extract_eq_none_iff.mp hread.symm with hfollow | hfollow
  · exact habsent (hfound.symm.trans hfollow)
  · exact hnone (hfound.symm.trans hfollow)

end Numeral

namespace Path

variable {key digits tail : List Char} {other : String} {more : List Step}

theorem keyStep_ne_wildcard (cs : List Char) : keyStep cs ≠ .wildcard := by
  unfold keyStep
  split <;> nofun

section Reading

variable {doc : Document}

theorem extract_object (hdigits : IsDigits digits) {fields : List (String × Json)}
    (hdoc : (keyStep key).part? doc = some (.object fields)) (more : List Step) :
    (⟨keyStep key :: keyStep digits :: more⟩ : Path).extract doc =
      (⟨.key (String.ofList (numberKey digits)) :: more⟩ : Path).extract (.object fields) :=
  extract_eq_of_part? (keyStep_ne_wildcard key) (isNumeral_keyStep hdigits) (isNumeral_key (isDigits_numberKey hdigits))
    hdoc nofun (part?_object_of_isDigits hdigits fields) more

theorem extract_array (hdigits : IsDigits digits) {items : List Json} (hitems : items.length < wordLimit)
    (hdoc : (keyStep key).part? doc = some (.array items)) (hpos : 0 < digitsValue 0 digits) (more : List Step) :
    (⟨keyStep key :: keyStep digits :: more⟩ : Path).extract doc =
      (⟨keyStep key :: bracketStep (Nat.toDigits 10 (digitsValue 0 digits - 1)) :: more⟩ : Path).extract doc := by
  have hfirst := keyStep_ne_wildcard key
  have hplace := isNumeral_bracketStep (Nat.toDigits 10 (digitsValue 0 digits - 1))
  have hpart : (keyStep digits).part? (.array items) =
      (bracketStep (Nat.toDigits 10 (digitsValue 0 digits - 1))).part? (.array items) := by
    rw [part?_array_of_isDigits hdigits hitems, if_neg hpos.ne', part?_array_bracketStep _ hitems, digitsValue_toDigits]
  rw [extract_eq_of_part? hfirst (isNumeral_keyStep hdigits) hplace hdoc nofun hpart,
    extract_eq_of_part? hfirst hplace hplace hdoc nofun rfl]

theorem extract_array_eq_none (hdigits : IsDigits digits) {items : List Json} (hitems : items.length < wordLimit)
    (hdoc : (keyStep key).part? doc = some (.array items))
    (hout : digitsValue 0 digits = 0 ∨ items.length < digitsValue 0 digits) (more : List Step) :
    (⟨keyStep key :: keyStep digits :: more⟩ : Path).extract doc = none := by
  have hpart : (keyStep digits).part? (.array items) = none := by
    rw [part?_array_of_isDigits hdigits hitems]
    rcases hout with hzero | hbeyond
    · rw [if_pos hzero]
    · rw [List.getElem?_eq_none (by omega), ite_self]
  refine extract_eq_none_iff.mpr (.inl ?_)
  show follow (keyStep key :: keyStep digits :: more) doc = .absent
  rw [follow_of_part? (keyStep_ne_wildcard key) hdoc nofun, follow_of_ne_wildcard (isNumeral_keyStep hdigits).ne_wildcard,
    hpart]

end Reading

/-- Digits between dots behind a field. In an object they read the entry with the key that they spell if and only if they
    lose no zeros, whatever the path goes on with; in any case they read the entry with the key that their number is
    written with. In a list, which has fewer elements than a word has numbers, they read what the number before theirs
    reads in brackets, and nothing with a number of 0 or one beyond the end. What a path may go on with is what may
    stand behind any other field. -/
theorem digits_read_spelled_key_iff (hkey : IsFieldText key) (hdigits : IsDigits digits)
    (htail : parse (other.toList ++ tail) = .ok ⟨.key other :: more⟩) :
    ∃ p q, parse (key ++ '.' :: (digits ++ tail)) = .ok p ∧
      parse (key ++ '[' :: (Nat.toDigits 10 (digitsValue 0 digits - 1) ++ ']' :: tail)) = .ok q ∧
      ((∀ doc fields, (keyStep key).part? doc = some (.object fields) →
          p.extract doc = (⟨.key (String.ofList digits) :: more⟩ : Path).extract (.object fields)) ↔
        ¬LosesZeros digits) ∧
      (∀ doc fields, (keyStep key).part? doc = some (.object fields) →
        p.extract doc = (⟨.key (String.ofList (numberKey digits)) :: more⟩ : Path).extract (.object fields)) ∧
      ∀ doc items, (keyStep key).part? doc = some (.array items) → items.length < wordLimit →
        (0 < digitsValue 0 digits → p.extract doc = q.extract doc) ∧
        (digitsValue 0 digits = 0 ∨ items.length < digitsValue 0 digits → p.extract doc = none) := by
  have hplace := isDigits_toDigits (digitsValue 0 digits - 1)
  have hbracket := parse_behind_bracket hkey (isKeyText_of_isDigits hplace).2.2.closes (subscript_of_isDigits hplace) htail
  refine ⟨_, _, parse_behind_dot hkey hdigits htail, hbracket, ?_, fun doc fields hdoc => extract_object hdigits hdoc more,
    fun doc items hdoc hitems => ⟨fun hpos => extract_array hdigits hitems hdoc hpos more, fun hout =>
      extract_array_eq_none hdigits hitems hdoc hout more⟩⟩
  rw [← numberKey_eq_iff hdigits]
  constructor
  · -- Every object stands behind the field of some document, and objects tell keys apart.
    intro hspelled
    have hsame : ∀ fields, (⟨.key (String.ofList (numberKey digits)) :: more⟩ : Path).extract (.object fields) =
        (⟨.key (String.ofList digits) :: more⟩ : Path).extract (.object fields) := by
      intro fields
      obtain ⟨doc, hdoc⟩ := exists_part? (keyStep_ne_wildcard key) (.object fields)
      rw [← extract_object hdigits hdoc more, hspelled doc fields hdoc]
    exact String.ofList_injective (eq_of_extract_key_eq hsame)
  · intro hsame doc fields hdoc
    rw [extract_object hdigits hdoc more, hsame]

/-- Digits without zeros in front are read as they are spelled, with more of the path behind them. -/
theorem digits_read_spelled_key_of_ten :
    IsFieldText "ports".toList ∧ IsDigits "10".toList ∧
      parse ("x".toList ++ ".name".toList) = .ok ⟨[.key "x", .key "name"]⟩ ∧
      ∃ p, parse "ports.10.name".toList = .ok p ∧ ∀ doc fields, (keyStep "ports".toList).part? doc = some (.object fields) →
        p.extract doc = (⟨[.key "10", .key "name"]⟩ : Path).extract (.object fields) := by
  have hkey : IsFieldText "ports".toList := by decide
  have hdigits : IsDigits "10".toList := by decide
  have htail : parse ("x".toList ++ ".name".toList) = .ok ⟨[.key "x", .key "name"]⟩ :=
    parse_eq_ok_iff.mpr ⟨by decide, ["x".toList, "name".toList], rfl, by cbv⟩
  obtain ⟨p, -, hparse, -, hspelled, -⟩ := digits_read_spelled_key_iff hkey hdigits htail
  exact ⟨hkey, hdigits, htail, p, hparse, hspelled.mpr (by decide)⟩

/-- Zeros in front are lost, and another entry is read. -/
theorem other_entry_of_leading_zero :
    ∃ p, parse "a.01".toList = .ok p ∧
      p.extract (.object [("a", .object [("01", .bool true), ("1", .bool false)])]) = some (.bool false) ∧
      (⟨[.key "01"]⟩ : Path).extract (.object [("01", .bool true), ("1", .bool false)]) = some (.bool true) :=
  ⟨⟨[.key "a", .position 1]⟩, parse_eq_ok_iff.mpr ⟨by decide, ["a".toList, "01".toList], rfl, by cbv⟩, rfl, rfl⟩

end Path

end ClusterQuery
