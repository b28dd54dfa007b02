import WebApplication.Proofs.Template.Marks
import WebApplication.Proofs.Text.Trim

/-!
# Tokens and their source texts

A token that was read can be written so that it is read again, whatever it stands
before. Only a text does not: it runs into a text behind it, and if it ends in a brace
then it must be the last one. Of the tokens of a source only the last ends so.
-/

set_option autoImplicit false

namespace WebApplication.Template

def spaced (name : String) : List Char := [' ']++name.toList++[' ']

namespace Token

def isKept : Token → Bool
  | text _ | var _ _ | opening _ _ | closing _ => true
  | comment | flaw _ => false

def source : Token → List Char
  | text content => content.toList
  | var name true => openMark++spaced name++closeMark
  | var name false => openMark++['{']++spaced name++rawCloseMark
  | opening name inverted =>
    openMark++[if inverted then '^' else '#']++spaced name++closeMark
  | closing name => openMark++['/']++spaced name++closeMark
  | _ => []

def join : Token → List Token → List Token
  | text a, text b::ts => text (a++b)::ts
  | t, ts => t::ts

end Token

def joinTexts (ts : List Token) : List Token := ts.foldr Token.join []

structure Tidy (mark : List Char) (name : String) : Prop where
  trimmed : Text.trimChars name.toList = name.toList
  unmarked : ¬ mark <:+: name.toList

namespace Token

def Printable : Token → Prop
  | text content => content.toList ≠ [] ∧ ¬ openMark <:+: content.toList
  | var name true => Tidy closeMark name ∧
      ∃ c cs, name.toList = c::cs ∧ c ∉ ['#', '^', '/', '!', '&']
  | var name false => Tidy rawCloseMark name
  | opening name _ => Tidy closeMark name
  | closing name => Tidy closeMark name
  | _ => False

def Closed : Token → Prop
  | text content => ¬ openMark <:+: content.toList++['{']
  | _ => True

theorem closed_of_not_text {t : Token} (h : ∀ content, t ≠ text content) : t.Closed := by
  cases t with
  | text content => exact absurd rfl (h content)
  | _ => trivial

theorem join_text_of_not_text (a : String) {t : Token} (h : ∀ content, t ≠ text content)
    (ts : List Token) : (text a).join (t::ts) = text a::t::ts := by
  cases t with
  | text content => exact absurd rfl (h content)
  | _ => rfl

theorem join_of_not_text {t : Token} (h : ∀ content, t ≠ text content) (ts : List Token) :
    t.join ts = t::ts := by
  cases t <;> simp_all [join]

end Token

/-! ## Reading one token -/

theorem tokens_of_none {cs : List Char} (h : breakAt openMark cs = none) :
    tokens cs = textToken cs := by
  rw [tokens]
  split
  · rfl
  · simp_all

theorem tokens_of_some {cs before after : List Char}
    (h : breakAt openMark cs = some (before, after)) :
    tokens cs = textToken before++(tagAfter after).1::((tagAfter after).2.elim [] tokens) := by
  rw [tokens]
  split
  · simp_all
  · rename_i hb
    rw [h, Option.some.injEq, Prod.mk.injEq] at hb
    obtain ⟨rfl, rfl⟩ := hb
    split <;> rename_i ht <;> simp [ht]

theorem tagToken_not_text (inside : List Char) (content : String) :
    tagToken inside ≠ .text content := by
  unfold tagToken
  split
  · simp
  · split_ifs <;> simp

theorem tagAfter_not_text (after : List Char) (content : String) :
    (tagAfter after).1 ≠ .text content := by
  unfold tagAfter
  split <;> split <;> simp [tagToken_not_text]

theorem tagAfter_raw {inside : List Char} (h : ¬ rawCloseMark <:+: inside++['}', '}'])
    (rest : List Char) :
    tagAfter ('{'::(inside++rawCloseMark++rest)) = (.var (named inside) false, some rest) := by
  have hb : breakAt rawCloseMark (inside++rawCloseMark++rest) = some (inside, rest) :=
    breakAt_of_unmarked_before h (by decide)
  simp only [tagAfter, hb]

theorem tagAfter_plain {inside : List Char} (hc : inside.head? ≠ some '{')
    (h : ¬ closeMark <:+: inside++['}']) (rest : List Char) :
    tagAfter (inside++closeMark++rest) = (tagToken inside, some rest) := by
  have hb : breakAt closeMark (inside++closeMark++rest) = some (inside, rest) :=
    breakAt_of_unmarked_before h (by decide)
  rw [tagAfter]
  · rw [hb]
  · intro raw he
    cases inside with
    | nil => simp [closeMark] at he
    | cons c inside => simp_all

/-! ## What was read can be printed -/

theorem tidy_named {mark inside : List Char} (h : ¬ mark <:+: inside) :
    Tidy mark (named inside) where
  trimmed := by rw [named, String.toList_ofList, Text.trimChars_idem]
  unmarked := by
    rw [named, String.toList_ofList]
    exact fun hi => h (hi.trans (Text.trimChars_infix inside))

theorem printable_tagToken {inside : List Char} (h : ¬ closeMark <:+: inside)
    (hk : (tagToken inside).isKept = true) : (tagToken inside).Printable := by
  unfold tagToken at hk ⊢
  split
  · rename_i ht
    rw [ht] at hk
    simp [Token.isKept] at hk
  · rename_i c cs ht
    rw [ht] at hk
    simp only at hk
    have hcs : ¬ closeMark <:+: cs := by
      intro hi
      have hin := Text.trimChars_infix inside
      rw [ht] at hin
      exact h ((List.infix_cons hi).trans hin)
    have hname : String.ofList (c::cs) = named inside := by rw [named, ht]
    by_cases h1 : c = '#'
    · simp only [if_pos h1]
      exact tidy_named hcs
    by_cases h2 : c = '^'
    · simp only [if_neg h1, if_pos h2]
      exact tidy_named hcs
    by_cases h3 : c = '/'
    · simp only [if_neg h1, if_neg h2, if_pos h3]
      exact tidy_named hcs
    by_cases h4 : c = '!'
    · simp [h4, Token.isKept] at hk
    by_cases h5 : c = '&'
    · simp only [if_neg h1, if_neg h2, if_neg h3, if_neg h4, if_pos h5]
      have ht := tidy_named hcs
      exact ⟨ht.trimmed, fun hi => ht.unmarked ((by decide : closeMark <:+: rawCloseMark).trans hi)⟩
    · simp only [if_neg h1, if_neg h2, if_neg h3, if_neg h4, if_neg h5]
      constructor
      · rw [hname]
        exact tidy_named h
      · exact ⟨c, cs, by simp, by simp [h1, h2, h3, h4, h5]⟩

theorem printable_tagAfter {after : List Char} (hk : (tagAfter after).1.isKept = true) :
    (tagAfter after).1.Printable := by
  unfold tagAfter at hk ⊢
  split
  · split
    · rename_i inside _ hb
      exact tidy_named (unmarked_front (by decide) hb)
    · rename_i hb
      simp [hb, Token.isKept] at hk
  · split
    · rename_i inside _ hb
      simp only [hb] at hk
      exact printable_tagToken (unmarked_front (by decide) hb) hk
    · rename_i hb
      simp [hb, Token.isKept] at hk

theorem printable_textToken {cs : List Char} (h : ¬ openMark <:+: cs) {t : Token}
    (ht : t ∈ textToken cs) : t.Printable := by
  unfold textToken at ht
  by_cases hcs : cs.isEmpty = true
  · simp [hcs] at ht
  · rw [if_neg hcs, List.mem_singleton] at ht
    subst ht
    constructor
    · simpa using hcs
    · simpa using h

/-- Tokens of which those that are kept can be printed, and no text but the last runs into
an opening mark behind it. -/
structure Loose (ts : List Token) : Prop where
  printable : ∀ t ∈ ts, t.isKept = true → t.Printable
  closed : ts.Pairwise fun t _ => t.Closed

theorem Loose.filter {ts : List Token} (h : Loose ts) (p : Token → Bool) : Loose (ts.filter p) where
  printable t ht hk := h.printable t (List.mem_filter.mp ht).1 hk
  closed := h.closed.filter p

theorem loose_nil : Loose [] where
  printable := by simp
  closed := List.Pairwise.nil

theorem loose_textToken {cs : List Char} (h : ¬ openMark <:+: cs) : Loose (textToken cs) where
  printable _ ht _ := printable_textToken h ht
  closed := by
    unfold textToken
    split <;> simp

/-- One step of reading: the text before an opening mark, and the tag behind it. -/
theorem Loose.read {cs before after : List Char} {ts : List Token}
    (h : breakAt openMark cs = some (before, after)) (hts : Loose ts) :
    Loose (textToken before++(tagAfter after).1::ts) := by
  obtain ⟨-, hu⟩ := unmarked_before (by decide) h
  have hbefore : ¬ openMark <:+: before := unmarked_front (by decide) h
  have htag : (tagAfter after).1.Closed := Token.closed_of_not_text (tagAfter_not_text after)
  constructor
  · intro t ht hk
    rcases List.mem_append.mp ht with ht | ht
    · exact printable_textToken hbefore ht
    · rcases List.mem_cons.mp ht with rfl | ht
      · exact printable_tagAfter hk
      · exact hts.printable t ht hk
  · rw [List.pairwise_append]
    constructor
    · exact (loose_textToken hbefore).closed
    constructor
    · exact List.pairwise_cons.mpr ⟨fun _ _ => htag, hts.closed⟩
    · intro t ht _ _
      unfold textToken at ht
      split at ht
      · simp at ht
      · rw [List.mem_singleton] at ht
        subst ht
        simpa [Token.Closed, openMark] using hu

theorem tokens_loose (cs : List Char) : Loose (tokens cs) := by
  induction cs using tokens.induct with
  | case1 cs h =>
    rw [tokens_of_none h]
    exact loose_textToken (unmarked_of_breakAt (by decide) h)
  | case2 cs before after h token ht =>
    rw [tokens_of_some h, ht]
    have hl := Loose.read h loose_nil
    rwa [ht] at hl
  | case3 cs before after h token rest ht _ ih =>
    rw [tokens_of_some h, ht]
    have hl := Loose.read h ih
    rwa [ht] at hl

/-! ## What is printed is read again -/

theorem unmarked_spaced {mark lead last : List Char} {name : String} (hb : ' ' ∉ mark)
    (hlead : ¬ mark <:+: lead) (hname : ¬ mark <:+: name.toList) (hlast : ¬ mark <:+: last) :
    ¬ mark <:+: lead++spaced name++last := by
  intro h
  have hparts : lead++spaced name++last = lead++([' ']++(name.toList++([' ']++last))) := by
    simp [spaced]
  rw [hparts] at h
  rcases infix_of_apart hb h with h | h
  · exact hlead h
  rcases infix_of_apart hb h with h | h
  · exact hname h
  · exact hlast h

theorem trimChars_spaced (name : String) :
    Text.trimChars (spaced name) = Text.trimChars name.toList :=
  Text.trimChars_between_blanks (by decide) (by decide) name.toList

theorem named_spaced {mark : List Char} {name : String} (h : Tidy mark name) :
    named (spaced name) = name := by
  rw [named, trimChars_spaced, h.trimmed, String.ofList_toList]

theorem tagToken_sign {c : Char} (h : Text.isBlank c = false) (inside : List Char) :
    tagToken (c::inside) =
      if c = '#' then .opening (named inside) false
      else if c = '^' then .opening (named inside) true
      else if c = '/' then .closing (named inside)
      else if c = '!' then .comment
      else if c = '&' then .var (named inside) false
      else .var (String.ofList (c::Text.trimEndChars inside)) true := by
  have hn : named (Text.trimEndChars inside) = named inside := by
    rw [named, Text.trimChars_trimEndChars, named]
  rw [tagToken, Text.trimChars_cons h]
  simp only [hn]

theorem tagToken_name {name : String} (h : Token.Printable (.var name true)) :
    tagToken (spaced name) = .var name true := by
  obtain ⟨htidy, c, cs, hname, hc⟩ := h
  rw [tagToken, trimChars_spaced, htidy.trimmed, hname]
  simp only [List.mem_cons, List.not_mem_nil, or_false, not_or] at hc
  simp only [if_neg hc.1, if_neg hc.2.1, if_neg hc.2.2.1, if_neg hc.2.2.2.1, if_neg hc.2.2.2.2]
  rw [← hname, String.ofList_toList]

theorem tokens_openMark (after : List Char) :
    tokens (openMark++after) =
      (tagAfter after).1::((tagAfter after).2.elim [] tokens) := by
  have h : breakAt openMark ([]++openMark++after) = some ([], after) :=
    breakAt_of_unmarked_before (by decide) (by decide)
  exact tokens_of_some h

/-- Text is put before what is read behind it, if no opening mark is in it or made by it. -/
theorem tokens_text_append {content : String} (h : ¬ openMark <:+: content.toList)
    {cs : List Char} (hcs : ¬ MakeMark content.toList cs) (hne : content.toList ≠ []) :
    tokens (content.toList++cs) = Token.join (.text content) (tokens cs) := by
  have hb : breakAt openMark (content.toList++cs) = _ := breakAt_openMark_append h hcs
  cases hc : breakAt openMark cs with
  | none =>
    rw [hc] at hb
    rw [tokens_of_none hb, tokens_of_none hc]
    cases cs <;> simp [textToken, Token.join, hne]
  | some parts =>
    obtain ⟨before, after⟩ := parts
    rw [hc] at hb
    rw [tokens_of_some hb, tokens_of_some hc]
    cases before with
    | nil =>
      have hj := Token.join_text_of_not_text content (tagAfter_not_text after)
      simp [textToken, hne, hj]
    | cons c before => simp [textToken, Token.join]

theorem Token.Closed.apart {content : String} (h : Token.Closed (.text content))
    (cs : List Char) : ¬ MakeMark content.toList cs := by
  rintro ⟨hlast, -⟩
  obtain ⟨front, hf⟩ := List.getLast?_eq_some_iff.mp hlast
  exact h ⟨front, [], by simp [openMark, hf]⟩

theorem tokens_double {lead : List Char} {name : String} (hlead : lead.length ≤ 1)
    (hc : lead.head? ≠ some '{') (h : ¬ closeMark <:+: name.toList) (cs : List Char) :
    tokens (openMark++lead++spaced name++closeMark++cs) =
      tagToken (lead++spaced name)::tokens cs := by
  have hshort : ¬ closeMark <:+: lead := by
    intro hi
    have hl := hi.length_le
    simp only [closeMark, List.length_cons, List.length_nil] at hl
    omega
  have hu : ¬ closeMark <:+: lead++spaced name++['}'] :=
    unmarked_spaced (by decide) hshort h (by decide)
  have hin : (lead++spaced name).head? ≠ some '{' := by
    cases lead with
    | nil => exact fun he => absurd (Option.some.inj he) (by decide)
    | cons c lead => exact hc
  have hs : openMark++lead++spaced name++closeMark++cs =
      openMark++(lead++spaced name++closeMark++cs) := by simp
  rw [hs, tokens_openMark, tagAfter_plain hin hu]
  rfl

theorem tokens_signed {c : Char} {name : String} (hb : Text.isBlank c = false) (hc : c ≠ '{')
    (h : Tidy closeMark name) (cs : List Char) :
    tokens (openMark++[c]++spaced name++closeMark++cs) =
      (if c = '#' then .opening name false
      else if c = '^' then .opening name true
      else if c = '/' then .closing name
      else if c = '!' then .comment
      else if c = '&' then .var name false
      else .var (String.ofList (c::Text.trimEndChars (spaced name))) true)::tokens cs := by
  have ht := tokens_double (by simp : [c].length ≤ 1) (by simpa using hc) h.unmarked cs
  rw [List.singleton_append, tagToken_sign hb, named_spaced h] at ht
  exact ht

theorem tokens_raw {name : String} (h : Tidy rawCloseMark name) (cs : List Char) :
    tokens ((Token.var name false).source++cs) = .var name false::tokens cs := by
  have hu : ¬ rawCloseMark <:+: spaced name++['}', '}'] :=
    unmarked_spaced (by decide) (by decide : ¬ rawCloseMark <:+: []) h.unmarked (by decide)
  have hs : (Token.var name false).source++cs =
      openMark++('{'::(spaced name++rawCloseMark++cs)) := by simp [Token.source]
  rw [hs, tokens_openMark, tagAfter_raw hu, named_spaced h]
  rfl

/-- A printed tag is read again, whatever it stands before. -/
theorem tokens_tag_append {t : Token} (h : t.Printable) (hn : ∀ content, t ≠ .text content)
    (cs : List Char) : tokens (t.source++cs) = t::tokens cs := by
  cases t with
  | text content => exact absurd rfl (hn content)
  | comment => exact h.elim
  | flaw f => exact h.elim
  | var name escaped =>
    cases escaped with
    | true =>
      have ht := tokens_double (by decide : [].length ≤ 1) (by decide) h.1.unmarked cs
      rw [List.nil_append, tagToken_name h] at ht
      exact ht
    | false => exact tokens_raw h cs
  | opening name inverted =>
    cases inverted with
    | true => exact tokens_signed (by decide) (by decide) h cs
    | false => exact tokens_signed (by decide) (by decide) h cs
  | closing name => exact tokens_signed (by decide) (by decide) h cs

theorem tokens_text {content : String} (h : Token.Printable (.text content)) :
    tokens content.toList = [.text content] := by
  rw [tokens_of_none (breakAt_of_unmarked h.2)]
  simp [textToken, h.1]

/-- Printed tokens are read again, with texts that touch read as one. -/
theorem tokens_sources {ts : List Token} (hk : ∀ t ∈ ts, t.isKept = true) (h : Loose ts) :
    tokens (ts.flatMap Token.source) = joinTexts ts := by
  induction ts with
  | nil => exact tokens_of_none rfl
  | cons t ts ih =>
    obtain ⟨hclosed, hrest⟩ := List.pairwise_cons.mp h.closed
    have hp : t.Printable := h.printable t List.mem_cons_self (hk t List.mem_cons_self)
    have ih := ih (fun u hu => hk u (List.mem_cons_of_mem t hu))
      ⟨fun u hu => h.printable u (List.mem_cons_of_mem t hu), hrest⟩
    rw [List.flatMap_cons, joinTexts, List.foldr_cons, ← joinTexts, ← ih]
    by_cases hn : ∀ content, t ≠ .text content
    · rw [tokens_tag_append hp hn, Token.join_of_not_text hn]
    · obtain ⟨content, rfl⟩ := not_forall_not.mp hn
      cases ts with
      | nil =>
        have hnil : tokens [] = [] := tokens_of_none rfl
        simpa [Token.source, hnil, Token.join] using tokens_text hp
      | cons u ts => exact tokens_text_append hp.2 ((hclosed u List.mem_cons_self).apart _) hp.1

end WebApplication.Template
