import ClusterQuery.Proofs.Query.MetadataMap
import ClusterQuery.Proofs.Query.PathBase

/-! Resolving what was resolved. A text resolves to itself if nothing is left to resolve in it, and what a field resolves to is
    such a text unless dropping the dots at its ends lays bare a blank or a call. -/

namespace ClusterQuery

namespace AliasTable

variable {A : AliasTable} {cs base subscripts name argument : List Char}

/-! ### Texts that resolve to themselves -/

theorem resolve_of_splitCall_eq_some (h : splitCall (trim cs) = some (name, argument)) :
    A.resolve cs = name ++ '(' :: (A.resolve argument ++ [')']) := by
  rw [resolve]
  split
  · next hcall =>
    cases h.symm.trans hcall
    exact List.append_assoc _ _ _
  · next hcall =>
    rw [h] at hcall
    cases hcall

theorem resolve_call (hne : name ≠ []) (hname : ∀ c ∈ name, isTitleChar c = true) (argument : List Char) :
    A.resolve (name ++ '(' :: (argument ++ [')'])) = name ++ '(' :: (A.resolve argument ++ [')']) := by
  refine resolve_of_splitCall_eq_some ?_
  rw [trim_eq_self (trimmed_call hne hname argument), Field.splitCall_callText hne hname]

theorem resolve_trim (A : AliasTable) (cs : List Char) : A.resolve (trim cs) = A.resolve cs := by
  cases h : splitCall (trim cs) with
  | some call => rw [resolve_of_splitCall_eq_some h, resolve_of_splitCall_eq_some (by rw [trim_trim, h])]
  | none => rw [resolve_of_splitCall_eq_none h, resolve_of_splitCall_eq_none (by rw [trim_trim, h]), trim_trim]

/-- A name for which no alias and no map of the metadata stands. -/
def Unaliased (base : List Char) : Prop := builtin.get? (String.ofList base) = none ∧ mapEntry? base = none

/-- A name and the subscripts after it, without anything around them that resolving drops. -/
structure Cut (base subscripts : List Char) : Prop where
  closed : ∀ c ∈ base, c ≠ '['
  bracket : ∀ c ∈ subscripts.head?, c = '['
  trimmed : Trimmed (base ++ subscripts)
  padding : trimName base = base
  notCall : splitCall (base ++ subscripts) = none

/-- A text in which nothing is left to resolve: a name that stands for nothing else, or a call of such a text. -/
inductive Settled : List Char → Prop
  | name {base subscripts : List Char} (hcut : Cut base subscripts) (hbase : Unaliased base) : Settled (base ++ subscripts)
  | call {name argument : List Char} (hne : name ≠ []) (hname : ∀ c ∈ name, isTitleChar c = true) (h : Settled argument) :
    Settled (name ++ '(' :: (argument ++ [')']))

theorem Cut.resolve_eq (h : Cut base subscripts) : A.resolve (base ++ subscripts) = A.resolveName base subscripts := by
  obtain ⟨htake, hdrop⟩ := takeWhile_append_bracket h.closed h.bracket
  have htrim := trim_eq_self h.trimmed
  rw [resolve_of_splitCall_eq_none (by rw [htrim, h.notCall]), htrim, htake, hdrop, h.padding]

theorem resolveName_of_unaliased (h : Unaliased base) (subscripts : List Char) :
    builtin.resolveName base subscripts = base ++ subscripts := by
  rw [resolveName, h.1]
  dsimp only
  rw [h.2]

theorem Settled.resolve_eq (h : Settled cs) : builtin.resolve cs = cs := by
  induction h with
  | name hcut hbase => rw [hcut.resolve_eq, resolveName_of_unaliased hbase]
  | call hne hname _ ih => rw [resolve_call hne hname, ih]

/-! ### What a name stands for -/

instance (base : List Char) : Decidable (Unaliased base) := inferInstanceAs (Decidable (_ ∧ _))

/-- The name of a path that stands for nothing else, before subscripts. -/
structure IsTarget (target : List Char) : Prop where
  ne_nil : target ≠ []
  chars : ∀ c ∈ target, isBlank c = false ∧ c ≠ '[' ∧ c ≠ '('
  padding : trimName target = target
  unaliased : Unaliased target

theorem isTarget_of_get? {target : String} (h : builtin.get? (String.ofList base) = some target) : IsTarget target.toList := by
  have htargets : ∀ b ∈ builtin.entries, b.2.toList ≠ [] ∧ (∀ c ∈ b.2.toList, isBlank c = false ∧ c ≠ '[' ∧ c ≠ '(') ∧
      trimName b.2.toList = b.2.toList ∧ Unaliased b.2.toList := by decide +kernel
  obtain ⟨hne, hchars, hpadding, hunaliased⟩ := htargets _ (Dictionary.mem_of_get? h)
  exact ⟨hne, hchars, hpadding, hunaliased⟩

theorem isTarget_of_map {map key : List Char} (h : mapEntry? base = some (map, key)) : IsTarget map := by
  have hmaps : ∀ m : MetadataMap, let map := "metadata.".toList ++ m.name.toList
      map ≠ [] ∧ (∀ c ∈ map, isBlank c = false ∧ c ≠ '[' ∧ c ≠ '(') ∧ trimName map = map ∧ Unaliased map := by
    intro m
    cases m <;> decide +kernel
  obtain ⟨m, -, rfl, -⟩ := MetadataMap.mapEntry?_eq_some_iff.mp h
  obtain ⟨hne, hchars, hpadding, hunaliased⟩ := hmaps m
  exact ⟨hne, hchars, hpadding, hunaliased⟩

theorem IsTarget.settled {target : List Char} (h : IsTarget target) (hbracket : ∀ c ∈ subscripts.head?, c = '[')
    (hlast : ∀ c ∈ subscripts.getLast?, isBlank c = false) : Settled (target ++ subscripts) := by
  have htarget : Trimmed target := trimmed_of_not_blank fun c hc => (h.chars c hc).1
  refine .name ⟨fun c hc => (h.chars c hc).2.1, hbracket, ?_, h.padding, ?_⟩ h.unaliased
  · cases subscripts with
    | nil => rwa [List.append_nil]
    | cons c rest => exact trimmed_append h.ne_nil (List.cons_ne_nil _ _) htarget.head hlast
  · exact splitCall_of_base (fun hmem => (h.chars _ hmem).2.2 rfl) hbracket

/-- What stands for something else resolves to a text in which nothing is left to resolve. -/
theorem settled_resolveName (h : ¬Unaliased base) (hbracket : ∀ c ∈ subscripts.head?, c = '[')
    (hlast : ∀ c ∈ subscripts.getLast?, isBlank c = false) : Settled (builtin.resolveName base subscripts) := by
  unfold resolveName
  cases hget : builtin.get? (String.ofList base) with
  | some target => exact (isTarget_of_get? hget).settled hbracket hlast
  | none =>
    cases hentry : mapEntry? base with
    | none => exact (h ⟨hget, hentry⟩).elim
    | some entry =>
      obtain ⟨map, key⟩ := entry
      have hquoted : map ++ ['[', '"'] ++ key ++ ['"', ']'] ++ subscripts =
          map ++ (('[' :: '"' :: key) ++ ('"' :: ']' :: subscripts)) := by simp
      show Settled (map ++ ['[', '"'] ++ key ++ ['"', ']'] ++ subscripts)
      rw [hquoted]
      refine (isTarget_of_map hentry).settled (fun c hc => (Option.some.inj hc).symm) fun c hc => ?_
      rw [List.getLast?_append_of_ne_nil _ (List.cons_ne_nil _ _), List.getLast?_cons_cons] at hc
      cases subscripts with
      | nil =>
        cases hc
        rfl
      | cons d rest =>
        rw [List.getLast?_cons_cons] at hc
        exact hlast c hc

/-! ### Texts that do not -/

theorem trimName_sublist (cs : List Char) : (trimName cs).Sublist cs := by
  have hprefix : trimName cs <+: cs.dropWhile fun c => c == ' ' || c == '.' := ⟨_, dropEndWhile_append_takeWhile _ _⟩
  exact hprefix.sublist.trans (List.dropWhile_sublist _)

theorem trim_sublist (cs : List Char) : (trim cs).Sublist cs := by
  have hprefix : trim cs <+: trimStart cs := trimEnd_prefix (trimStart cs)
  exact hprefix.sublist.trans (List.dropWhile_sublist _)

/-- A text that is no call is a name and subscripts, and resolves as the name without the spaces and dots at its ends. -/
theorem exists_name (h : splitCall (trim cs) = none) : ∃ base subscripts, trim cs = base ++ subscripts ∧ (∀ c ∈ base, c ≠ '[') ∧
    (∀ c ∈ subscripts.head?, c = '[') ∧ (∀ c ∈ subscripts.getLast?, isBlank c = false) ∧
    ∀ A : AliasTable, A.resolve cs = A.resolveName (trimName base) subscripts := by
  have hsplit := List.takeWhile_append_dropWhile (p := (· != '[')) (l := trim cs)
  refine ⟨_, _, hsplit.symm, fun c hc => ?_, fun c hc => ?_, fun c hc => (trimmed_trim cs).last c ?_, fun A => ?_⟩
  · simpa using List.mem_takeWhile_imp hc
  · simpa using head?_dropWhile_neg _ (trim cs) hc
  · rw [← hsplit, List.getLast?_append, hc]
    rfl
  · exact resolve_of_splitCall_eq_none h

/-- A text that resolves to itself is settled: where nothing else stands for its name, nothing can have been dropped from it,
    since it would have got shorter. -/
theorem settled_of_resolve_eq (h : builtin.resolve cs = cs) : Settled cs := by
  induction hlen : cs.length using Nat.strongRecOn generalizing cs with
  | _ n ih =>
    cases hcall : splitCall (trim cs) with
    | some call =>
      obtain ⟨name, argument⟩ := call
      obtain ⟨-, -, -, -, hne, hname⟩ := splitCall_eq_some hcall
      rw [resolve_of_splitCall_eq_some hcall] at h
      rw [← h, trim_eq_self (trimmed_call hne hname _), Field.splitCall_callText hne hname] at hcall
      have hargument : builtin.resolve argument = argument := (Prod.mk.inj (Option.some.inj hcall)).2
      rw [hargument] at h
      have hlt : argument.length < n := by
        rw [← hlen, ← h, List.length_append, List.length_cons, List.length_append]
        omega
      rw [← h]
      exact .call hne hname (ih _ hlt hargument rfl)
    | none =>
      obtain ⟨base, subscripts, hsplit, hclosed, hbracket, hlast, hresolve⟩ := exists_name hcall
      rw [hresolve] at h
      by_cases hunaliased : Unaliased (trimName base)
      · rw [resolveName_of_unaliased hunaliased] at h
        -- Only characters were dropped, and none can have been, as nothing got shorter.
        have hname := (trimName_sublist base).length_le
        have htrim := (trim_sublist cs).length_le
        have hlength := congrArg List.length h
        rw [hsplit, List.length_append] at htrim
        rw [List.length_append] at hlength
        have hbase : trimName base = base := (trimName_sublist base).eq_of_length (by omega)
        rw [hbase] at h hunaliased
        have htrimmed : trim cs = cs := hsplit.trans h
        rw [htrimmed] at hcall
        rw [← h] at hcall ⊢
        refine .name ⟨hclosed, hbracket, ?_, hbase, hcall⟩ hunaliased
        rw [h, ← htrimmed]
        exact trimmed_trim cs
      · rw [← h]
        exact settled_resolveName hunaliased hbracket hlast

/-- A text resolves to itself if nothing is left to resolve in it. -/
theorem resolve_eq_self_iff : builtin.resolve cs = cs ↔ Settled cs := ⟨settled_of_resolve_eq, Settled.resolve_eq⟩

/-! ### Texts without dots at their ends -/

/-- A text that is no call is none either without some characters between a parenthesis and its end. -/
theorem splitCall_eq_none_of_longer {pads : List Char} (hopen : '(' ∈ base) (hne : subscripts ≠ [])
    (h : splitCall (base ++ (pads ++ subscripts)) = none) : splitCall (base ++ subscripts) = none := by
  refine Option.eq_none_iff_forall_not_mem.mpr fun ⟨name, argument⟩ hcall => ?_
  obtain ⟨front, htext, hfront, hname, hne', hchars⟩ := splitCall_eq_some hcall
  obtain ⟨init, last, rfl⟩ := List.eq_nil_or_concat' subscripts |>.resolve_left hne
  have hends : (base ++ init) ++ [last] = (front ++ '(' :: argument) ++ [')'] := by simpa using htext
  obtain ⟨hinit, hlast⟩ := List.append_inj' hends rfl
  rcases List.append_eq_append_iff.mp hinit with ⟨rest, rfl, -⟩ | ⟨rest, rfl, hrest⟩
  · exact hfront (List.mem_append_left _ hopen)
  · cases rest with
    | nil =>
      rw [List.append_nil] at hopen
      exact hfront hopen
    | cons c rest =>
      obtain ⟨rfl, rfl⟩ := List.cons.inj hrest
      cases hlast
      have hlonger : front ++ '(' :: rest ++ (pads ++ (init ++ [')'])) = front ++ '(' :: ((rest ++ (pads ++ init)) ++ [')']) := by
        simp
      rw [hlonger, Field.splitCall_of_front hfront (hname ▸ hne') (hname ▸ hchars)] at h
      cases h

/-- What is dropped at the ends of a name. -/
def isPadding (c : Char) : Bool := c == ' ' || c == '.'

theorem trimName_eq (cs : List Char) : trimName cs = dropEndWhile isPadding (cs.dropWhile isPadding) := rfl

/-- A name with nothing to drop in front keeps its beginning. -/
theorem exists_trimName_append (h : ∀ c ∈ base.head?, isPadding c = false) : ∃ pads, base = trimName base ++ pads := by
  have hstart : base.dropWhile isPadding = base := by
    cases base with
    | nil => rfl
    | cons c base => exact List.dropWhile_cons_of_neg (by rw [h c rfl]; exact Bool.false_ne_true)
  rw [trimName_eq, hstart]
  exact ⟨_, (dropEndWhile_append_takeWhile isPadding base).symm⟩

theorem isPadding_eq_false_iff {c : Char} : isPadding c = false ↔ c ≠ ' ' ∧ c ≠ '.' := by simp [isPadding]

theorem trimName_trimName (cs : List Char) : trimName (trimName cs) = trimName cs := by
  obtain ⟨hhead, hlast⟩ := ends_dropEndWhile_dropWhile isPadding cs
  exact trimName_eq_self (fun c hc => isPadding_eq_false_iff.mp (hhead c hc))
    fun c hc => isPadding_eq_false_iff.mp (hlast c hc)

theorem isPadding_of_not_blank {c : Char} (hblank : isBlank c = false) (hdot : c ≠ '.') : isPadding c = false := by
  refine isPadding_eq_false_iff.mpr ⟨?_, hdot⟩
  rintro rfl
  cases hblank

/-- A text without a dot at its ends. -/
structure Dotless (cs : List Char) : Prop where
  head : ∀ c ∈ cs.head?, c ≠ '.'
  last : ∀ c ∈ cs.getLast?, c ≠ '.'

/-- Without a dot at its ends, a text loses no more than what stands between its name and its subscripts. -/
theorem Dotless.cut_trimName (h : Dotless (base ++ subscripts)) (hclosed : ∀ c ∈ base, c ≠ '[')
    (hbracket : ∀ c ∈ subscripts.head?, c = '[') (htrimmed : Trimmed (base ++ subscripts))
    (hcall : splitCall (base ++ subscripts) = none) : Cut (trimName base) subscripts := by
  have hstart : ∀ c ∈ base.head?, isPadding c = false := fun c hc => by
    have hc' : c ∈ (base ++ subscripts).head? := by
      rw [List.head?_append, hc]
      rfl
    exact isPadding_of_not_blank (htrimmed.head c hc') (h.head c hc')
  cases subscripts with
  | nil =>
    have hname : trimName base = base := by
      obtain ⟨-, hlast⟩ := h
      rw [List.append_nil] at hlast htrimmed
      exact trimName_eq_self (fun c hc => isPadding_eq_false_iff.mp (hstart c hc))
        fun c hc => isPadding_eq_false_iff.mp (isPadding_of_not_blank (htrimmed.last c hc) (hlast c hc))
    rw [hname]
    exact ⟨hclosed, hbracket, htrimmed, hname, hcall⟩
  | cons d rest =>
    obtain ⟨pads, hbase⟩ := exists_trimName_append hstart
    have hne : d :: rest ≠ [] := List.cons_ne_nil _ _
    refine ⟨fun c hc => hclosed c (mem_of_mem_trimName hc), hbracket, ⟨fun c hc => ?_, fun c hc => ?_⟩,
      trimName_trimName base, ?_⟩
    · -- The first character is that of the whole text or the bracket.
      cases hname : trimName base with
      | nil =>
        rw [hname] at hc
        cases hc
        rw [hbracket d rfl]
        rfl
      | cons first more =>
        rw [hname] at hc hbase
        rw [hbase] at htrimmed
        exact htrimmed.head c hc
    · rw [List.getLast?_append_of_ne_nil _ hne] at hc
      exact htrimmed.last c (by rwa [List.getLast?_append_of_ne_nil _ hne])
    · by_cases hopen : '(' ∈ trimName base
      · rw [hbase, List.append_assoc] at hcall
        exact splitCall_eq_none_of_longer hopen hne hcall
      · exact splitCall_of_base hopen hbracket

/-- A text without a dot at its ends keeps its form if nothing stands for it, so that nothing is left to resolve. -/
theorem settled_resolve_of_dotless (hcall : splitCall (trim cs) = none) (h : Dotless (trim cs)) :
    Settled (builtin.resolve cs) := by
  obtain ⟨base, subscripts, hsplit, hclosed, hbracket, hend, hresolve⟩ := exists_name hcall
  rw [hresolve]
  by_cases hunaliased : Unaliased (trimName base)
  · have htrimmed := trimmed_trim cs
    rw [hsplit] at hcall h htrimmed
    rw [resolveName_of_unaliased hunaliased]
    exact .name (h.cut_trimName hclosed hbracket htrimmed hcall) hunaliased
  · exact settled_resolveName hunaliased hbracket hend

/-! ### Canonical texts of paths -/

variable {p : Path}

/-- Keys between dots are a name of a map and more just if the first of them is. -/
theorem exists_mapEntry?_iff {key : List Char} {keys : List (List Char)} (hdot : '.' ∉ key)
    (hkeys : ∀ key ∈ keys, key ≠ []) :
    (∃ entry, mapEntry? (joinWith ['.'] (key :: keys)) = some entry) ↔ keys ≠ [] ∧ ∃ m : MetadataMap, key = m.name.toList := by
  have hname : ∀ m : MetadataMap, '.' ∉ m.name.toList := fun m => by cases m <;> decide
  cases keys with
  | nil =>
    refine iff_of_false ?_ fun h => h.1 rfl
    rintro ⟨⟨map, entry⟩, hentry⟩
    obtain ⟨m, hbase, -, -⟩ := MetadataMap.mapEntry?_eq_some_iff.mp hentry
    have hbase : key = m.name.toList ++ '.' :: entry := hbase
    exact hdot (hbase ▸ List.mem_append_right _ List.mem_cons_self)
  | cons second keys =>
    have hne := List.cons_ne_nil second keys
    have hjoin : joinWith ['.'] (key :: second :: keys) = key ++ '.' :: joinWith ['.'] (second :: keys) := by
      rw [joinWith_cons_of_ne_nil hne, List.append_assoc]
      rfl
    rw [hjoin, and_iff_right hne]
    constructor
    · rintro ⟨⟨map, entry⟩, hentry⟩
      obtain ⟨m, hbase, -, -⟩ := MetadataMap.mapEntry?_eq_some_iff.mp hentry
      -- Both texts have the same characters up to their first dots.
      have hclass : ∀ {cs : List Char}, '.' ∉ cs → ∀ c ∈ cs, (c != '.') = true := fun h c hc =>
        bne_iff_ne.mpr fun he => h (he ▸ hc)
      have hhead : ∀ (rest : List Char), ∀ c ∈ ('.' :: rest).head?, (c != '.') = false := by
        rintro rest c ⟨⟩
        rfl
      exact ⟨m, (Path.append_inj_of_head (hclass hdot) (hhead _) (hclass (hname m)) (hhead _) hbase).1⟩
    · rintro ⟨m, rfl⟩
      refine ⟨_, MetadataMap.mapEntry?_eq_some_iff.mpr ⟨m, rfl, rfl, fun hnil => ?_⟩⟩
      obtain ⟨c, hc⟩ := List.exists_mem_of_ne_nil _ (hkeys second List.mem_cons_self)
      have hmem : c ∈ joinWith ['.'] (second :: keys) := mem_joinWith List.mem_cons_self hc
      rw [hnil] at hmem
      cases hmem

/-- If nothing stands for the name of the text of a path, then nothing does for the name of its canonical text. -/
theorem unaliased_base (h : Path.parse cs = .ok p) (hname : Unaliased ((trim cs).takeWhile (· != '['))) : Unaliased p.base := by
  obtain ⟨keys, ⟨hne, hkeys⟩, htext, hbase⟩ := Path.exists_keys_of_parse h
  have hprinted : ∀ key ∈ keys, Path.IsKeyText (Path.printedKey key) ∧ '.' ∉ Path.printedKey key := fun key hkey =>
    Path.isKeyText_printedKey (hkeys key hkey).1 (hkeys key hkey).2
  obtain ⟨hget, hentry⟩ := hname
  rw [htext] at hget hentry
  rw [Unaliased, hbase]
  constructor
  · by_cases hsame : ∀ key ∈ keys, Path.printedKey key = key
    · rwa [List.map_congr_left hsame, List.map_id']
    · -- A number holds a digit, and the names of aliases are of letters.
      obtain ⟨key, hkey, hdiffers⟩ : ∃ key ∈ keys, Path.printedKey key ≠ key := by simpa using hsame
      have hdigits := (Path.printedKey_eq_or key).resolve_left hdiffers
      obtain ⟨c, hc⟩ := List.exists_mem_of_ne_nil _ (hprinted key hkey).1.1
      exact builtin_get?_eq_none (mem_joinWith (List.mem_map_of_mem hkey) hc) (isAsciiLetter_of_isDigit (hdigits c hc))
  · refine Option.eq_none_iff_forall_not_mem.mpr fun entry hfound => ?_
    obtain ⟨key, keys, rfl⟩ := List.exists_cons_of_ne_nil hne
    obtain ⟨hkey, hmore⟩ := List.forall_mem_cons.mp hkeys
    obtain ⟨hkey', hmore'⟩ := List.forall_mem_cons.mp hprinted
    rw [List.map_cons] at hfound
    have hprintedMore : ∀ key ∈ keys.map Path.printedKey, key ≠ [] :=
      List.forall_mem_map.mpr fun key hkey => (hmore' key hkey).1.1
    obtain ⟨hne', m, hm⟩ := (exists_mapEntry?_iff hkey'.2 hprintedMore).mp ⟨entry, hfound⟩
    have hsame : Path.printedKey key = key := by
      refine (Path.printedKey_eq_or key).resolve_right fun hdigits => ?_
      have hletter : 'a' ∈ m.name.toList := by cases m <;> decide
      cases hdigits _ (hm ▸ hletter)
    obtain ⟨entry', hfound'⟩ := (exists_mapEntry?_iff hkey.2 fun key hkey => (hmore key hkey).1.1).mpr
      ⟨fun hnil => hne' (List.map_eq_nil_iff.mpr hnil), m, hsame ▸ hm⟩
    rw [hentry] at hfound'
    cases hfound'

/-- If nothing is left to resolve in the text of a path, then nothing is in its canonical text. -/
theorem settled_render (h : Path.parse cs = .ok p) (hcs : Settled cs) : Settled p.render := by
  have hkeys := Path.isKeys_base_of_parse h
  have hrender : p.render = p.base ++ p.render.dropWhile (· != '[') := List.takeWhile_append_dropWhile.symm
  have hbracket : ∀ c ∈ (p.render.dropWhile (· != '[')).head?, c = '[' := fun c hc => by
    simpa using head?_dropWhile_neg _ p.render hc
  have htrimmed : Trimmed p.render := (Path.wellFormed_of_parse h).trimmed_render
  cases hcs with
  | call hne hname _ =>
    have hcall := Path.splitCall_of_parse h
    rw [Field.splitCall_callText hne hname] at hcall
    cases hcall
  | name hcut hname =>
    have hbase : Unaliased p.base := by
      refine unaliased_base h ?_
      rwa [trim_eq_self hcut.trimmed, (takeWhile_append_bracket hcut.closed hcut.bracket).1]
    rw [hrender] at htrimmed ⊢
    refine .name ⟨fun c hc => ?_, hbracket, htrimmed, hkeys.trimName_eq, splitCall_of_base hkeys.openless hbracket⟩ hbase
    simpa using List.mem_takeWhile_imp hc

/-! ### Fields -/

variable {reducer shown : Option Reducer} {pathText text : List Char} {f : Field}

/-- The argument of a field is no call: it would be read as one, or as a path that is one. -/
theorem splitCall_argument (hsplit : Field.splitReducer (trim cs) = .ok (reducer, argument))
    (htarget : Field.target A reducer argument = .ok (shown, pathText)) (hp : Path.parse pathText = .ok p) :
    splitCall argument = none := by
  have htyped := Field.typed_of_splitReducer hsplit
  refine Option.eq_none_iff_forall_not_mem.mpr fun ⟨name, inner⟩ hcall => ?_
  cases reducer with
  | none =>
    rw [← htyped.eq_of_none, Field.splitReducer, hcall] at hsplit
    obtain ⟨r, -, he⟩ := Except.map_eq_ok_iff.mp hsplit
    cases he
  | some r =>
    obtain ⟨-, -, -, -, hne, hname⟩ := splitCall_eq_some hcall
    have hresolve : A.resolve argument = name ++ '(' :: (A.resolve inner ++ [')']) :=
      resolve_of_splitCall_eq_some (by rw [trim_eq_self (htyped.trimmed (trimmed_trim cs)), hcall])
    have hwhole : pathText = A.resolve argument := by
      unfold Field.target at htarget
      rw [hresolve, Field.splitCall_callText hne hname] at htarget
      cases htarget
      exact hresolve.symm
    have hnone := Path.splitCall_of_parse hp
    rw [hwhole, hresolve, Field.splitCall_callText hne hname] at hnone
    cases hnone

theorem ne_nil_of_named? {r : Reducer} (h : Reducer.named? name = some r) : name ≠ [] := by
  rintro rfl
  cases h

/-- A text with an argument has a dot at its ends only if the argument has, for a name has none and a call ends with the
    parenthesis. -/
theorem dotless_of_argument (h : Field.Typed cs reducer argument) (hcs : Trimmed cs) (hne : argument ≠ [])
    (hargument : Dotless argument) (hcall : splitCall cs = none) : Dotless cs := by
  cases h with
  | path => exact hargument
  | @call front inner name r hfront hname hr =>
    have hopen : '(' ∉ front := fun hmem => (Field.ne_parenthesis_of_front (hfront _ hmem)).1 rfl
    rw [Field.splitCall_of_front hopen (hname ▸ ne_nil_of_named? hr) (hname ▸ isTitleChar_of_named? hr)] at hcall
    cases hcall
  | @word first rest c r hfirst hc hr =>
    refine ⟨fun d hd => ?_, fun d hd => ?_⟩
    · rw [List.head?_append_of_ne_nil _ (ne_nil_of_named? hr)] at hd
      rintro rfl
      cases hfirst _ (List.mem_of_mem_head? hd)
    · obtain ⟨as, bs, -, hbs, hrest⟩ := exists_trim rest
      cases bs with
      | nil =>
        refine hargument.last d ?_
        rwa [hrest, List.append_nil, ← List.cons_append, ← List.append_assoc, List.getLast?_append_of_ne_nil _ hne] at hd
      | cons b bs =>
        -- No blanks are left at the end.
        have hlast : d ∈ (b :: bs).getLast? := by
          rwa [hrest, ← List.cons_append, ← List.append_assoc, ← List.append_assoc,
            List.getLast?_append_of_ne_nil _ (List.cons_ne_nil _ _)] at hd
        have hblank := hbs d (List.mem_of_mem_getLast? hlast)
        rw [hcs.last d hd] at hblank
        cases hblank

/-- What a text of a field resolves to is settled if its argument has no dot at its ends. -/
theorem settled_resolve_of_argument (hsplit : Field.splitReducer (trim cs) = .ok (reducer, argument)) (hne : argument ≠ [])
    (hargument : splitCall argument = none) (h : Dotless argument) :
    Settled (builtin.resolve argument) ∧ Settled (builtin.resolve cs) := by
  have htyped := Field.typed_of_splitReducer hsplit
  have htrim : trim argument = argument := trim_eq_self (htyped.trimmed (trimmed_trim cs))
  have hsettled : Settled (builtin.resolve argument) := by
    rw [← htrim] at hargument h
    exact settled_resolve_of_dotless hargument h
  refine ⟨hsettled, ?_⟩
  cases hcall : splitCall (trim cs) with
  | none => exact settled_resolve_of_dotless hcall (dotless_of_argument htyped (trimmed_trim cs) hne h hcall)
  | some call =>
    obtain ⟨name, inner⟩ := call
    obtain ⟨-, -, -, -, hname, hchars⟩ := splitCall_eq_some hcall
    rw [Field.splitReducer, hcall] at hsplit
    obtain ⟨r, -, he⟩ := Except.map_eq_ok_iff.mp hsplit
    cases he
    rw [resolve_of_splitCall_eq_some hcall, ← resolve_trim]
    exact .call hname hchars hsettled

/-- The text that the path of a field is read from is settled if what the argument resolves to is. -/
theorem settled_pathText (h : Settled cs) : Settled (((splitCall cs).map Prod.snd).getD cs) := by
  cases h with
  | name hcut hbase =>
    rw [hcut.notCall]
    exact .name hcut hbase
  | call hne hname h =>
    rw [Field.splitCall_callText hne hname]
    exact h

theorem settled_callText (reducer : Option Reducer) (h : Settled argument) : Settled (Field.callText reducer argument) := by
  cases reducer with
  | none => exact h
  | some r =>
    rw [Field.callText_some]
    exact .call (name_ne_nil r) (isTitleChar_of_mem_name r) h

/-- What the text of a field resolves to resolves to itself just if nothing is left to resolve in it, and nothing is if the
    argument has no dot at its ends. The canonical texts of the path and of the field resolve to themselves if nothing is left to
    resolve in what the argument resolves to. -/
theorem resolve_field (h : Field.parse .builtin cs = .ok (f, text)) :
    (builtin.resolve (builtin.resolve cs) = builtin.resolve cs ↔ Settled (builtin.resolve cs)) ∧
      ∃ reducer argument, Field.splitReducer (trim cs) = .ok (reducer, argument) ∧
        (Dotless argument → Settled (builtin.resolve argument) ∧ Settled (builtin.resolve cs)) ∧
        (Settled (builtin.resolve argument) →
          builtin.resolve f.path.render = f.path.render ∧ builtin.resolve f.render = f.render) := by
  obtain ⟨-, reducer, argument, hsplit, hne, pathText, htarget, hpath, -⟩ := Field.parse_eq_ok_iff.mp h
  refine ⟨resolve_eq_self_iff, reducer, argument, hsplit, fun hdotless => ?_, fun hsettled => ?_⟩
  · exact settled_resolve_of_argument hsplit hne (splitCall_argument hsplit htarget hpath) hdotless
  · have hpathText : Settled pathText := by
      rw [Field.pathText_of_target htarget hpath]
      exact settled_pathText hsettled
    have hrender : Settled f.path.render := settled_render hpath hpathText
    exact ⟨hrender.resolve_eq, (settled_callText f.reducer hrender).resolve_eq⟩

theorem resolve_field_of_label :
    let cs := "len(labels.app.kubernetes.io/name)".toList
    let f : Field := ⟨⟨[.key "metadata", .key "labels", .mapKey "app.kubernetes.io/name"]⟩, some .len⟩
    Field.parse .builtin cs = .ok (f, cs) ∧ builtin.resolve (builtin.resolve cs) = builtin.resolve cs ∧
      builtin.resolve f.path.render = f.path.render ∧ builtin.resolve f.render = f.render := by
  intro cs f
  have h : Field.parse .builtin cs = .ok (f, cs) := by decide +kernel
  obtain ⟨htwice, reducer, argument, hsplit, hdotless, hsettled⟩ := resolve_field h
  have hcall : Field.splitReducer (trim cs) = .ok (some .len, "labels.app.kubernetes.io/name".toList) := by decide +kernel
  obtain ⟨rfl, rfl⟩ := Prod.mk.inj (Except.ok.inj (hsplit.symm.trans hcall))
  obtain ⟨hargument, hcs⟩ := hdotless ⟨by decide, by decide⟩
  exact ⟨h, htwice.mpr hcs, hsettled hargument⟩

/-- Without the dot in front the text is a call, whose argument is an alias. -/
theorem resolve_of_dotted_call :
    let cs := ".len(name)".toList
    let f : Field := ⟨⟨[.key "name"]⟩, some .len⟩
    Field.parse .builtin cs = .ok (f, "len(.len(name))".toList) ∧ f.render = builtin.resolve cs ∧
      builtin.resolve cs = "len(name)".toList ∧ builtin.resolve (builtin.resolve cs) = "len(metadata.name)".toList ∧
      ¬∀ (cs text : List Char) (f : Field), Field.parse .builtin cs = .ok (f, text) →
        builtin.resolve (builtin.resolve cs) = builtin.resolve cs := by
  intro cs f
  have h : Field.parse .builtin cs = .ok (f, "len(.len(name))".toList) := by decide +kernel
  have honce : builtin.resolve cs = "len(name)".toList := by decide +kernel
  have htwice : builtin.resolve (builtin.resolve cs) = "len(metadata.name)".toList := by decide +kernel
  refine ⟨h, by decide +kernel, honce, htwice, fun hall => ?_⟩
  have hsame := hall cs _ f h
  rw [htwice, honce] at hsame
  cases hsame

end AliasTable

end ClusterQuery
