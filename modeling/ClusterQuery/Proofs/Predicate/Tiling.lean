import ClusterQuery.Proofs.Predicate.Fragments
import ClusterQuery.Proofs.Text.Trim

/-! The tokens of a source tile it. A source that is accepted is blanks and lexemes in turn, one lexeme for each token, and
    the offset of a token is the length in bytes of what stands before its lexeme. A source that is refused is refused at
    the offset of one of its characters. -/

namespace ClusterQuery

namespace Predicate

variable {offset : Nat} {c q : Char} {cs rest word value written front back : List Char}

/-! ### Lexemes -/

/-- What a quoted text stands for: a backslash is dropped, and the character after it stands for itself. -/
def unescape : List Char → List Char
  | [] => []
  | '\\' :: c :: cs => c :: unescape cs
  | c :: cs => c :: unescape cs

/-- The text of a subscript: its quotes are closed, and a closing bracket stands only in quotes. -/
inductive SubscriptText : List Char → Prop
  | nil : SubscriptText []
  | char {c : Char} {cs : List Char} (hc : isQuote c = false ∧ c ≠ ']') (h : SubscriptText cs) : SubscriptText (c :: cs)
  | quoted {q : Char} {body cs : List Char} (hq : isQuote q = true) (hbody : q ∉ body) (h : SubscriptText cs) :
      SubscriptText (q :: (body ++ q :: cs))

/-- The text of a word: characters that end no word, and subscripts, each of which is closed. -/
inductive WordText : List Char → Prop
  | nil : WordText []
  | char {c : Char} {cs : List Char} (hc : IsWordChar c) (h : WordText cs) : WordText (c :: cs)
  | subscript {body cs : List Char} (hbody : SubscriptText body) (h : WordText cs) : WordText ('[' :: (body ++ ']' :: cs))

/-- How a token is written. -/
inductive IsLexeme : Token → List Char → Prop
  | symbol {s : Symbol} {spelling : List Char} (h : (spelling, s) ∈ Symbol.spellings) : IsLexeme (.symbol s) spelling
  /-- Two quotes around a text in which their kind stands only after a backslash. -/
  | text {q : Char} {body : List Char} (hq : isQuote q = true) (hbody : Escaped q body) :
      IsLexeme (.text (String.ofList (unescape body))) (q :: (body ++ [q]))
  | word {cs : List Char} (hne : cs ≠ []) (h : WordText cs) : IsLexeme (.word (String.ofList cs)) cs

theorem IsLexeme.ne_nil {t : Token} (h : IsLexeme t lexeme) : lexeme ≠ [] := by
  cases h with
  | symbol h =>
    have hspelled : ∀ e ∈ Symbol.spellings, e.1 ≠ [] := by decide
    exact hspelled _ h
  | text _ _ => exact List.cons_ne_nil _ _
  | word hne _ => exact hne

theorem unescape_cons_of_ne (hc : c ≠ '\\') (cs : List Char) : unescape (c :: cs) = c :: unescape cs := by
  rw [unescape.eq_def]
  split
  · next he => cases he
  · next he => exact (hc (List.cons.inj he).1).elim
  · next he =>
    cases he
    rfl

theorem exists_unescape_of_readQuoted (h : readQuoted q cs = some (value, written, rest)) :
    ∃ body, written = body ++ [q] ∧ unescape body = value := by
  fun_induction readQuoted q cs generalizing value written with
  | case1 => cases h
  | case2 c cs ih =>
    obtain ⟨⟨value', written', rest'⟩, h', he⟩ := Option.map_eq_some_iff.mp h
    cases he
    obtain ⟨body, rfl, rfl⟩ := ih h'
    exact ⟨'\\' :: c :: body, rfl, rfl⟩
  | case3 =>
    cases h
    exact ⟨[], rfl, rfl⟩
  | case4 c cs hpair hne ih =>
    obtain ⟨⟨value', written', rest'⟩, h', he⟩ := Option.map_eq_some_iff.mp h
    cases he
    obtain ⟨body, rfl, rfl⟩ := ih h'
    -- A backslash here would be the last character, after which no quote closes the text.
    have hc : c ≠ '\\' := fun hc => by
      cases cs with
      | nil => cases h'
      | cons d cs => exact hpair d cs hc rfl
    exact ⟨c :: body, rfl, unescape_cons_of_ne hc body⟩

theorem isLexeme_of_readQuoted (hq : isQuote q = true) (h : readQuoted q cs = some (value, written, rest)) :
    IsLexeme (.text (String.ofList value)) (q :: written) := by
  obtain ⟨body, rfl, rfl⟩ := exists_unescape_of_readQuoted h
  obtain ⟨body', he, hescaped⟩ := exists_of_readQuoted hq h
  rw [List.append_cancel_right he]
  exact .text hq hescaped

/-- What the rest of a word holds, by the place that it begins in. -/
def WordPlace.Reads : WordPlace → List Char → Prop
  | .outside, word => WordText word
  | .subscript none, word => ∃ body cs, word = body ++ ']' :: cs ∧ SubscriptText body ∧ WordText cs
  | .subscript (some q), word =>
    ∃ quoted body cs, word = quoted ++ q :: (body ++ ']' :: cs) ∧ q ∉ quoted ∧ SubscriptText body ∧ WordText cs

theorem reads_of_wordRest {place : WordPlace} (h : WordRest place word) : place.Reads word := by
  induction h with
  | nil => exact .nil
  | char hc _ ih => exact .char hc ih
  | opening _ ih =>
    obtain ⟨body, cs, rfl, hbody, hcs⟩ := ih
    exact .subscript hbody hcs
  | @inside c _ hc _ ih =>
    obtain ⟨body, cs, rfl, hbody, hcs⟩ := ih
    exact ⟨c :: body, cs, rfl, .char hc hbody, hcs⟩
  | @closing cs _ ih => exact ⟨[], cs, rfl, .nil, ih⟩
  | @quote q _ hq _ ih =>
    obtain ⟨quoted, body, cs, rfl, hquoted, hbody, hcs⟩ := ih
    exact ⟨q :: (quoted ++ q :: body), cs, by simp, .quoted hq hquoted hbody, hcs⟩
  | @quoted q c _ hc _ ih =>
    obtain ⟨quoted, body, cs, rfl, hquoted, hbody, hcs⟩ := ih
    exact ⟨c :: quoted, body, cs, rfl, List.not_mem_cons_of_ne_of_not_mem (Ne.symm hc) hquoted, hbody, hcs⟩
  | unquote _ ih =>
    obtain ⟨body, cs, rfl, hbody, hcs⟩ := ih
    exact ⟨[], body, cs, rfl, List.not_mem_nil, hbody, hcs⟩

theorem reads_of_readWord {place : WordPlace} (h : readWord place cs = some (word, rest)) : place.Reads word :=
  reads_of_wordRest (wordRest_of_readWord h)

theorem isLexeme_of_scan {s : Scanned} (h : scan offset c cs = .ok s) : IsLexeme s.token s.lexeme := by
  cases scan_eq_ok_iff.mp h with
  | symbol hsymbol =>
    obtain ⟨⟨spelling, symbol⟩, hmem, hread⟩ := List.exists_of_findSome?_eq_some hsymbol
    obtain ⟨rest, -, he⟩ := Option.map_eq_some_iff.mp hread
    cases he
    exact .symbol hmem
  | text _ hq hread => exact isLexeme_of_readQuoted hq hread
  | word hsymbol hends hread =>
    have hword : WordText _ := reads_of_readWord hread
    exact .word (List.cons_ne_nil _ _) (.char ⟨hends, ne_open_of_readSymbol? hsymbol⟩ hword)

/-! ### Tilings -/

/-- A token where it stands, with its lexeme. -/
structure Tile where
  placed : PlacedToken
  lexeme : List Char

namespace Tile

/-- The offset of the first byte of a lexeme. -/
def start (t : Tile) : Nat := t.placed.offset

/-- The offset of the first byte after a lexeme. -/
def stop (t : Tile) : Nat := t.placed.offset + byteLength t.lexeme

end Tile

/-- A text, `offset` bytes into the source, is blanks and lexemes in turn. -/
inductive Tiled : Nat → List Char → List Tile → Prop
  | done {offset : Nat} : Tiled offset [] []
  | blank {offset : Nat} {c : Char} {cs : List Char} {tiles : List Tile} (hc : isBlank c = true)
      (h : Tiled (offset + c.utf8Size) cs tiles) : Tiled offset (c :: cs) tiles
  | lexeme {offset : Nat} {t : Token} {lexeme rest : List Char} {tiles : List Tile} (ht : IsLexeme t lexeme)
      (h : Tiled (offset + byteLength lexeme) rest tiles) : Tiled offset (lexeme ++ rest) (⟨⟨t, offset⟩, lexeme⟩ :: tiles)

/-- The tokens of a text that is accepted tile it. -/
theorem exists_tiled_of_tokensFrom {ts : List PlacedToken} (h : tokensFrom offset cs = .ok ts) :
    ∃ tiles, Tiled offset cs tiles ∧ ts = tiles.map Tile.placed := by
  fun_induction tokensFrom offset cs generalizing ts with
  | case1 =>
    cases h
    exact ⟨[], .done, rfl⟩
  | case2 offset c rest hc ih =>
    obtain ⟨tiles, htiled, rfl⟩ := ih h
    exact ⟨tiles, .blank hc htiled, rfl⟩
  | case3 offset c rest hc e hscan => cases h
  | case4 offset c rest hc s hscan e hrest ih => cases h
  | case5 offset c rest hc s hscan tokens hrest ih =>
    cases h
    obtain ⟨tiles, htiled, rfl⟩ := ih hrest
    rw [(eq_of_scan hscan).1]
    exact ⟨_, .lexeme (isLexeme_of_scan hscan) htiled, rfl⟩

namespace Tiled

variable {t : Tile} {tiles : List Tile}

theorem isLexeme (h : Tiled offset cs tiles) (ht : t ∈ tiles) : IsLexeme t.placed.token t.lexeme := by
  induction h with
  | done => cases ht
  | blank _ _ ih => exact ih ht
  | lexeme hlexeme _ ih =>
    rcases List.mem_cons.mp ht with rfl | ht
    · exact hlexeme
    · exact ih ht

theorem start_lt_stop (h : Tiled offset cs tiles) (ht : t ∈ tiles) : t.start < t.stop :=
  Nat.lt_add_of_pos_right (byteLength_pos_of_ne_nil (h.isLexeme ht).ne_nil)

theorem offset_le_start (h : Tiled offset cs tiles) (ht : t ∈ tiles) : offset ≤ t.start := by
  induction h with
  | done => cases ht
  | blank _ _ ih => exact Nat.le_trans (Nat.le_add_right _ _) (ih ht)
  | lexeme _ _ ih =>
    rcases List.mem_cons.mp ht with rfl | ht
    · exact Nat.le_refl _
    · exact Nat.le_trans (Nat.le_add_right _ _) (ih ht)

/-- No lexeme begins before those in front of it have ended. -/
theorem pairwise (h : Tiled offset cs tiles) : tiles.Pairwise fun a b => a.stop ≤ b.start := by
  induction h with
  | done => exact .nil
  | blank _ _ ih => exact ih
  | lexeme _ h ih => exact .cons (fun t ht => h.offset_le_start ht) ih

/-- A token's offset is the length of the text before its lexeme. -/
theorem exists_split (h : Tiled offset cs tiles) (ht : t ∈ tiles) :
    ∃ front back, cs = front ++ t.lexeme ++ back ∧ t.start = offset + byteLength front := by
  induction h with
  | done => cases ht
  | @blank offset c cs tiles _ _ ih =>
    obtain ⟨front, back, rfl, hstart⟩ := ih ht
    exact ⟨c :: front, back, rfl, by rw [hstart, byteLength_cons, Nat.add_assoc]⟩
  | @lexeme offset token lexeme rest tiles _ _ ih =>
    rcases List.mem_cons.mp ht with rfl | ht
    · exact ⟨[], rest, rfl, rfl⟩
    · obtain ⟨front, back, rfl, hstart⟩ := ih ht
      exact ⟨lexeme ++ front, back, by simp, by rw [hstart, byteLength_append, Nat.add_assoc]⟩

/-- Every character that is not a blank stands in a lexeme. -/
theorem exists_covering (h : Tiled offset cs tiles) (hcs : cs = front ++ c :: back) (hc : isBlank c = false) :
    ∃ t ∈ tiles, t.start ≤ offset + byteLength front ∧ offset + byteLength front < t.stop := by
  induction h generalizing front with
  | done => exact (List.append_ne_nil_of_right_ne_nil front (List.cons_ne_nil c back) hcs.symm).elim
  | @blank offset d cs tiles hd _ ih =>
    cases front with
    | nil =>
      obtain ⟨rfl, -⟩ := List.cons.inj hcs
      rw [hc] at hd
      cases hd
    | cons d' front =>
      obtain ⟨rfl, hrest⟩ := List.cons.inj hcs
      rw [byteLength_cons, ← Nat.add_assoc]
      exact ih hrest
  | @lexeme offset token lexeme rest tiles _ _ ih =>
    have hlater : ∀ mid, front = lexeme ++ mid → rest = mid ++ c :: back → ∃ t ∈ ⟨⟨token, offset⟩, lexeme⟩ :: tiles,
        t.start ≤ offset + byteLength front ∧ offset + byteLength front < t.stop := fun mid hfront hrest => by
      obtain ⟨t, ht, hstart, hstop⟩ := ih hrest
      rw [hfront, byteLength_append, ← Nat.add_assoc]
      exact ⟨t, List.mem_cons_of_mem _ ht, hstart, hstop⟩
    -- The character stands behind the lexeme or in it.
    rcases List.append_eq_append_iff.mp hcs with ⟨mid, hfront, hrest⟩ | ⟨mid, rfl, hmid⟩
    · exact hlater mid hfront hrest
    · cases mid with
      | nil => exact hlater [] (by simp) hmid.symm
      | cons d mid =>
        refine ⟨_, List.mem_cons_self, Nat.le_add_right _ _, ?_⟩
        have := byteLength_pos_of_ne_nil (List.cons_ne_nil d mid)
        simp only [Tile.stop, byteLength_append]
        omega

/-- Two lexemes have no byte in common. -/
theorem eq_of_covering {t' : Tile} {n : Nat} (h : Tiled offset cs tiles) (ht : t ∈ tiles) (ht' : t' ∈ tiles)
    (hn : t.start ≤ n ∧ n < t.stop) (hn' : t'.start ≤ n ∧ n < t'.stop) : t = t' := by
  induction h with
  | done => cases ht
  | blank _ _ ih => exact ih ht ht'
  | @lexeme offset token lexeme rest tiles _ h ih =>
    -- A lexeme further on begins where the first one has ended.
    have hlater : ∀ {t : Tile}, t ∈ tiles → t.start ≤ n → n < offset + byteLength lexeme → False := fun ht hle hlt =>
      Nat.not_le_of_lt hlt (Nat.le_trans (h.offset_le_start ht) hle)
    rcases List.mem_cons.mp ht with rfl | ht
    · rcases List.mem_cons.mp ht' with rfl | ht'
      · rfl
      · exact (hlater ht' hn'.1 hn.2).elim
    · rcases List.mem_cons.mp ht' with rfl | ht'
      · exact (hlater ht hn.1 hn'.2).elim
      · exact ih ht ht'

end Tiled

/-! ### Sources that are refused -/

/-- What a text is refused for at one of its characters: a character that begins no token, the quote of a text that is not
    closed, or the first character of a word with a subscript that is not closed. -/
def RefusedAt (offset : Nat) (c : Char) (e : Error) : Prop :=
  e = .unexpectedChar offset c ∨ isQuote c = true ∧ e = .unterminatedText offset ∨
    IsWordChar c ∧ e = .unbalancedBracket offset

theorem refusedAt_of_scan {e : Error} (h : scan offset c cs = .error e) : RefusedAt offset c e := by
  unfold scan at h
  split at h
  · cases h
  · next hsymbol =>
    split at h
    · next hq =>
      split at h
      · cases h
      · cases h
        exact .inr (.inl ⟨hq, rfl⟩)
    · split at h
      · cases h
        exact .inl rfl
      · next hends =>
        split at h
        · cases h
        · cases h
          exact .inr (.inr ⟨⟨Bool.eq_false_iff.mpr hends, ne_open_of_readSymbol? hsymbol⟩, rfl⟩)

/-- A text is refused at the offset of one of its characters, which is not a blank. -/
theorem exists_of_tokensFrom_eq_error {e : Error} (h : tokensFrom offset cs = .error e) :
    ∃ front c back, cs = front ++ c :: back ∧ isBlank c = false ∧ RefusedAt (offset + byteLength front) c e := by
  fun_induction tokensFrom offset cs with
  | case1 => cases h
  | case2 offset c rest hc ih =>
    obtain ⟨front, d, back, rfl, hd, hrefused⟩ := ih h
    exact ⟨c :: front, d, back, rfl, hd, by rwa [byteLength_cons, ← Nat.add_assoc]⟩
  | case3 offset c rest hc e' hscan =>
    cases h
    exact ⟨[], c, rest, rfl, Bool.eq_false_iff.mpr hc, refusedAt_of_scan hscan⟩
  | case4 offset c rest hc s hscan e' hrest ih =>
    cases h
    obtain ⟨front, d, back, he, hd, hrefused⟩ := ih hrest
    refine ⟨s.lexeme ++ front, d, back, ?_, hd, by rwa [byteLength_append, ← Nat.add_assoc]⟩
    rw [(eq_of_scan hscan).1, he, List.append_assoc]
  | case5 => cases h

/-- Every source has tokens or is refused. The tokens tile the source: their offsets increase, a lexeme stands where the
    offset of its token says, and every character that is not a blank stands in exactly one lexeme. A source is refused
    at the offset of one of its characters. -/
theorem tokens_tile (source : List Char) :
    (∃ ts tiles, tokens source = .ok ts ∧ Tiled 0 source tiles ∧ ts = tiles.map Tile.placed ∧
      (ts.map PlacedToken.offset).Pairwise (· < ·) ∧
      (∀ t ∈ tiles, ∃ front back, source = front ++ t.lexeme ++ back ∧ t.placed.offset = byteLength front) ∧
      ∀ front c back, source = front ++ c :: back → isBlank c = false →
        ∃! t, t ∈ tiles ∧ t.start ≤ byteLength front ∧ byteLength front < t.stop) ∨
    ∃ e front c back, tokens source = .error e ∧ source = front ++ c :: back ∧ isBlank c = false ∧
      RefusedAt (byteLength front) c e := by
  cases h : tokens source with
  | error e =>
    obtain ⟨front, c, back, hsource, hc, hrefused⟩ := exists_of_tokensFrom_eq_error h
    rw [Nat.zero_add] at hrefused
    exact .inr ⟨e, front, c, back, rfl, hsource, hc, hrefused⟩
  | ok ts =>
    obtain ⟨tiles, htiled, rfl⟩ := exists_tiled_of_tokensFrom h
    refine .inl ⟨_, tiles, rfl, htiled, rfl, ?_, fun t ht => ?_, fun front c back hsource hc => ?_⟩
    · rw [List.map_map, List.pairwise_map]
      exact htiled.pairwise.imp_of_mem fun ht _ hle => Nat.lt_of_lt_of_le (htiled.start_lt_stop ht) hle
    · obtain ⟨front, back, hsource, hstart⟩ := htiled.exists_split ht
      exact ⟨front, back, hsource, by rw [← Nat.zero_add (byteLength front), ← hstart]; rfl⟩
    · obtain ⟨t, ht, hcovers⟩ := htiled.exists_covering hsource hc
      rw [Nat.zero_add] at hcovers
      exact ⟨t, ⟨ht, hcovers⟩, fun t' ht' => htiled.eq_of_covering ht'.1 ht ht'.2 hcovers⟩

end Predicate

end ClusterQuery
