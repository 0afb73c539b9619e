import SqlMargin.Command.Options
import SqlMargin.Command.Run
import SqlMargin.Proofs.Outcome

/-! Mode flags among the words of a command line. They choose what is done with the result and have
no part in anything else that the words say, wherever they stand. -/
namespace SqlMargin.Command

/-- What is asked for, in a mode. -/
def Arguments.inMode (a : Arguments) (check inPlace : Bool) : Arguments := { a with check, inPlace }

/-- Words `q` ask for what `p` asks for, but in the mode given, whatever files there are. -/
def Toolkit.Variant (kit : Toolkit) (p q : List String) (check inPlace : Bool) : Prop :=
  ∀ probe, kit.arguments probe q = (kit.arguments probe p).map (·.inMode check inPlace)

/-! How the rules for options bear this out. -/

/-- Words that choose a mode. -/
def Word.isMode : Word → Bool
  | .inPlace => true
  | .check => true
  | _ => false

lemma Word.eq_of_isMode {w : Word} (h : w.isMode = true) : w = .inPlace ∨ w = .check := by
  cases w with
  | inPlace => exact .inl rfl
  | check => exact .inr rfl
  | _ => cases h

/-- Words without those that choose a mode. -/
def Words.plain (ws : Words) : Words := { ws with options := ws.options.filter (!·.isMode) }

section Plain

variable (ws : List Word)

/-- What is read off words that mode flags say nothing to. -/
lemma filterMap_plain {α : Type} {f : Word → Option α} (hi : f .inPlace = none)
    (hc : f .check = none) : (ws.filter (!·.isMode)).filterMap f = ws.filterMap f := by
  rw [List.filterMap_filter]
  congr 1
  funext w
  cases hw : w.isMode with
  | true =>
    rcases Word.eq_of_isMode hw with rfl | rfl
    · simp [hi]
    · simp [hc]
  | false => simp

lemma firstEager_plain : firstEager (ws.filter (!·.isMode)) = firstEager ws := by
  unfold firstEager
  rw [← List.head?_filterMap, ← List.head?_filterMap, filterMap_plain ws rfl rfl]

lemma numbers_plain : numbers (ws.filter (!·.isMode)) = numbers ws := by
  unfold numbers
  rw [filterMap_plain ws rfl rfl]

lemma lastSwitch_plain {select : Word → Option Bool} (hi : select .inPlace = none)
    (hc : select .check = none) :
    lastSwitch select (ws.filter (!·.isMode)) = lastSwitch select ws := by
  unfold lastSwitch
  rw [filterMap_plain ws hi hc]

lemma request_eq :
    request ws = (request (ws.filter (!·.isMode))).map
      (·.inMode (ws.contains .check) (ws.contains .inPlace)) := by
  unfold request
  rw [numbers_plain, lastSwitch_plain ws rfl rfl, lastSwitch_plain ws rfl rfl]
  cases numbers ws with
  | error f => rfl
  | ok ns => rfl

end Plain

lemma request_inMode {ws ws' : Words} (h : ws'.plain = ws.plain) :
    request ws'.options = (request ws.options).map
      (·.inMode (ws'.options.contains .check) (ws'.options.contains .inPlace)) := by
  have hoptions : ws'.options.filter (!·.isMode) = ws.options.filter (!·.isMode) :=
    congrArg Words.options h
  rw [request_eq ws'.options, request_eq ws.options, hoptions]
  cases request (ws.options.filter (!·.isMode)) with
  | error f => rfl
  | ok a => rfl

/-- Command lines that are both understood, and differ in their mode flags only. -/
theorem variant_of_parse {p q : List String} {check inPlace : Bool} {ws ws' : Words}
    (hp : parse p = .ok ws) (hq : parse q = .ok ws') (hplain : ws'.plain = ws.plain)
    (hcheck : ws'.options.contains .check = check)
    (hinPlace : ws'.options.contains .inPlace = inPlace) :
    Toolkit.standard.Variant p q check inPlace := by
  intro probe
  have heager : firstEager ws'.options = firstEager ws.options := by
    rw [← firstEager_plain ws'.options, ← firstEager_plain ws.options]
    exact congrArg (firstEager ·.options) hplain
  have hothers : ws'.others = ws.others := congrArg (·.others) hplain
  have hrequest := request_inMode hplain
  change arguments probe q = (arguments probe p).map _
  have hwords (ws : Words) (next : Words → Except Ending Arguments) :
      (Except.ok ws).mapError (fun f : UsageFault => Ending.refused f.notice) >>= next = next ws :=
    rfl
  unfold arguments
  rw [hp, hq, hwords, hwords]
  dsimp only
  rw [heager, hothers, hrequest, hcheck, hinPlace]
  cases firstEager ws.options with
  | some text => rfl
  | none =>
    cases request ws.options with
    | error f => rfl
    | ok a =>
      cases fileArgument probe ws.others with
      | error e => rfl
      | ok file => rfl

/-- Words before others. -/
def Words.append (ws r : Words) : Words :=
  { options := ws.options ++ r.options, others := ws.others ++ r.others }

lemma map_addOptions_append (os : List Word) (r : Words) (x : Except UsageFault Words) :
    Words.addOptions os <$> x.map r.append = x.map (Words.addOptions os r).append := by
  cases x with
  | error f => rfl
  | ok t =>
    change Except.ok _ = Except.ok _
    simp [Words.addOptions, Words.append]

/-- The start of a command line that is understood by itself and does not end the options. -/
lemma parse_append {before : List String} {ws : Words} (h : parse before = .ok ws)
    (hdashes : "--" ∉ before) (after : List String) :
    parse (before ++ after) = (parse after).map ws.append := by
  fun_induction parse before generalizing ws with
  | case1 =>
    cases h
    cases hafter : parse after with
    | error f => simp [hafter, Except.map]
    | ok r => simp [hafter, Except.map, Words.append]
  | case2 rest => exact absurd List.mem_cons_self hdashes
  | case3 w rest hw hother ih =>
    obtain ⟨r, hr, hws⟩ := bind_eq_ok_iff.1 h
    cases hws
    rw [List.cons_append, parse, if_neg hw, if_pos hother,
      ih hr fun hm => hdashes (List.mem_cons_of_mem _ hm)]
    cases parse after with
    | error f => rfl
    | ok t => rfl
  | case4 => cases h
  | case5 w rest hw hother name value hsplit word hlong hvalue ih =>
    obtain ⟨r, hr, hws⟩ := exists_of_map_eq_ok h
    cases hws
    rw [List.cons_append, parse, if_neg hw, if_neg hother, hsplit]
    dsimp only
    rw [hlong]
    dsimp only
    rw [if_neg hvalue, ih hr fun hm => hdashes (List.mem_cons_of_mem _ hm), map_addOptions_append]
  | case6 w hw hother name make hlong v rest hsplit ih =>
    obtain ⟨r, hr, hws⟩ := exists_of_map_eq_ok h
    cases hws
    rw [List.cons_append, parse, if_neg hw, if_neg hother, hsplit]
    dsimp only
    rw [hlong]
    dsimp only
    rw [ih hr fun hm => hdashes (List.mem_cons_of_mem _ hm), map_addOptions_append]
  | case7 w hw hother name make hlong v rest hsplit ih =>
    obtain ⟨r, hr, hws⟩ := exists_of_map_eq_ok h
    cases hws
    rw [List.cons_append, List.cons_append, parse, if_neg hw, if_neg hother, hsplit]
    dsimp only
    rw [hlong]
    dsimp only
    rw [ih hr fun hm => hdashes (List.mem_cons_of_mem _ (List.mem_cons_of_mem _ hm)),
      map_addOptions_append]
  | case8 => cases h
  | case9 => cases h
  | case10 w rest hw hother name value hsplit hlong hshort ih =>
    obtain ⟨os, hos, hrest⟩ := bind_eq_ok_iff.1 h
    obtain ⟨r, hr, hws⟩ := exists_of_map_eq_ok hrest
    cases hws
    rw [List.cons_append, parse, if_neg hw, if_neg hother, hsplit]
    dsimp only
    rw [hlong]
    dsimp only
    rw [if_neg hshort, hos, ih hr fun hm => hdashes (List.mem_cons_of_mem _ hm)]
    exact map_addOptions_append os r _

/-- Mode flags put anywhere among the options of a command line that has none. -/
theorem variant_insert (before after flags : List String) (modes : List Word) {ws all : Words}
    (hbefore : parse before = .ok ws) (hflags : parse flags = .ok { options := modes })
    (hmodes : ∀ w ∈ modes, w.isMode = true) (hdashes : "--" ∉ before ++ flags)
    (hall : parse (before ++ after) = .ok all) (hplain : all.plain = all) :
    Toolkit.standard.Variant (before ++ after) (before ++ (flags ++ after)) (modes.contains .check)
      (modes.contains .inPlace) := by
  rw [List.mem_append, not_or] at hdashes
  have hwithout := parse_append hbefore hdashes.1 after
  have hwith := parse_append hbefore hdashes.1 (flags ++ after)
  rw [parse_append hflags hdashes.2] at hwith
  obtain ⟨r, hafter, rfl⟩ := exists_of_map_eq_ok (hwithout.symm.trans hall)
  rw [hafter] at hwith
  have hnone : modes.filter (!·.isMode) = [] := by
    apply List.filter_eq_nil_iff.2
    intro w hw
    simp [hmodes w hw]
  -- The words without flags hold none, so the flags that are found are those put in.
  have hfree {w : Word} (hw : w.isMode = true) : (ws.options ++ r.options).contains w = false := by
    have hoptions : (ws.options ++ r.options).filter (!·.isMode) = ws.options ++ r.options :=
      congrArg Words.options hplain
    rw [← hoptions]
    simp [hw]
  have hcontains {w : Word} (hw : w.isMode = true) :
      (ws.options ++ (modes ++ r.options)).contains w = modes.contains w := by
    have hboth := hfree hw
    rw [List.contains_append, Bool.or_eq_false_iff] at hboth
    rw [List.contains_append, List.contains_append, hboth.1, hboth.2, Bool.false_or, Bool.or_false]
  refine variant_of_parse hall hwith ?_ (hcontains rfl) (hcontains rfl)
  simp [Words.plain, Words.append, hnone]

end SqlMargin.Command
