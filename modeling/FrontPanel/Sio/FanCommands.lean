import FrontPanel.Sio.Fan

/-!
# The commands of the fan file

What `fan_write` takes for a command. The comparisons of `on` and `off` include the terminator and those of `con` and `coff` do not, so behind these two anything may stand; the blanks before a number are all the bytes below 0x21; and a NUL that was written ends the text. Apart from that a text is served if it is one of the six commands.
-/

namespace FrontPanel.Sio

open CString

inductive FanPair
  | sys
  | cpu
deriving DecidableEq

def FanPair.handler : FanPair → UInt8 → SioHandler
  | .sys => .setSysFan
  | .cpu => .setCpuFan

/-! ### The code -/

/-- The number behind a keyword, if it is one that is set. -/
def numberOf (p : List UInt8) : Option Nat :=
  match kstrtoul p with
  | .error _ => none
  | .ok pwm => if 0 < pwm ∧ pwm < 256 then some pwm else none

/-- What `fan_write` orders for the text in `buf`; `none` is `-EINVAL`. -/
def fanOrder (buf : List UInt8) : Option (FanPair × Nat) :=
  if strncasecmp buf (ascii "on") 3 = 0 then some (.sys, 127)
  else if strncasecmp buf (ascii "off") 4 = 0 then some (.sys, 0)
  else if strncasecmp buf (ascii "set ") 4 = 0 then
    (numberOf ((buf.drop 4).dropWhile Board.isBlank)).map (FanPair.sys, ·)
  else if strncasecmp buf (ascii "con") 3 = 0 then some (.cpu, 127)
  else if strncasecmp buf (ascii "coff") 4 = 0 then some (.cpu, 0)
  else if strncasecmp buf (ascii "cpu ") 4 = 0 then
    (numberOf ((buf.drop 4).dropWhile Board.isBlank)).map (FanPair.cpu, ·)
  else none

theorem fanNumber_eq (s : Board) (setFan : UInt8 → SioHandler) (p : List UInt8) :
    s.fanNumber setFan p =
      match numberOf p with
      | some pwm => (s.serve (setFan (UInt8.ofNat pwm)), 0)
      | none => (s, eInval) := by
  rw [Board.fanNumber, numberOf]
  cases p with
  | nil => rfl
  | cons c p =>
      rw [if_pos (List.cons_ne_nil c p)]
      cases kstrtoul (c :: p) with
      | error ret => rfl
      | ok pwm =>
          dsimp only
          split
          · rfl
          · rfl

theorem fanCommand_eq (s : Board) (buf : List UInt8) :
    s.fanCommand buf =
      match fanOrder buf with
      | some (pair, pwm) => (s.serve (pair.handler (UInt8.ofNat pwm)), 0)
      | none => (s, eInval) := by
  have hnumber : ∀ (pair : FanPair) (p : List UInt8), s.fanNumber pair.handler p =
      match (numberOf p).map (pair, ·) with
      | some (pair, pwm) => (s.serve (pair.handler (UInt8.ofNat pwm)), 0)
      | none => (s, eInval) := by
    intro pair p
    rw [fanNumber_eq]
    cases numberOf p with
    | none => rfl
    | some pwm => rfl
  rw [Board.fanCommand, fanOrder]
  split
  · rfl
  split
  · rfl
  split
  · exact hnumber .sys _
  split
  · rfl
  split
  · rfl
  split
  · exact hnumber .cpu _
  · rfl

/-! ### The commands -/

/-- A space or a tab. -/
def isSpaceOrTab (c : UInt8) : Bool := c == 32 || c == 9

/-- What a line orders: one of four words, or one of two with a number behind it, the keyword in any case. -/
def commandOf (line : List UInt8) : Option (FanPair × Nat) :=
  let low := line.map tolower
  if low = ascii "on" then some (.sys, 127)
  else if low = ascii "off" then some (.sys, 0)
  else if low.take 4 = ascii "set " then
    (numberOf ((line.drop 4).dropWhile isSpaceOrTab)).map (FanPair.sys, ·)
  else if low = ascii "con" then some (.cpu, 127)
  else if low = ascii "coff" then some (.cpu, 0)
  else if low.take 4 = ascii "cpu " then
    (numberOf ((line.drop 4).dropWhile isSpaceOrTab)).map (FanPair.cpu, ·)
  else none

/-- More than the word stands behind `con` or `coff`. -/
def WordJunk (text : List UInt8) : Prop :=
  let low := text.map tolower
  (low.take 3 = ascii "con" ∧ low ≠ ascii "con") ∨ (low.take 4 = ascii "coff" ∧ low ≠ ascii "coff")

/-- Something other than spaces and tabs stands between a keyword and its number. -/
def BlankJunk (text : List UInt8) : Prop :=
  let low := text.map tolower
  (low.take 4 = ascii "set " ∨ low.take 4 = ascii "cpu ") ∧
    (∃ c ∈ (text.drop 4).takeWhile Board.isBlank, isSpaceOrTab c = false) ∧
    (numberOf ((text.drop 4).dropWhile Board.isBlank)).isSome

instance (text : List UInt8) : Decidable (WordJunk text) :=
  inferInstanceAs (Decidable (_ ∧ ¬ _ = _ ∨ _ ∧ ¬ _ = _))

instance (text : List UInt8) : Decidable (BlankJunk text) :=
  inferInstanceAs (Decidable ((_ ∨ _) ∧
    (∃ c ∈ (text.drop 4).takeWhile Board.isBlank, isSpaceOrTab c = false) ∧ _))

section Text

variable {text : List UInt8}

theorem fanOrder_eq (htext : 0 ∉ text) : fanOrder text =
    let low := text.map tolower
    if low = ascii "on" then some (.sys, 127)
    else if low = ascii "off" then some (.sys, 0)
    else if low.take 4 = ascii "set " then
      (numberOf ((text.drop 4).dropWhile Board.isBlank)).map (FanPair.sys, ·)
    else if low.take 3 = ascii "con" then some (.cpu, 127)
    else if low.take 4 = ascii "coff" then some (.cpu, 0)
    else if low.take 4 = ascii "cpu " then
      (numberOf ((text.drop 4).dropWhile Board.isBlank)).map (FanPair.cpu, ·)
    else none := by
  have hon := @strncasecmp_eq_zero_iff text (ascii "on") htext (by decide)
  have hoff := @strncasecmp_eq_zero_iff text (ascii "off") htext (by decide)
  have hset := @strncasecmp_prefix_iff text (ascii "set ") htext (by decide)
  have hcon := @strncasecmp_prefix_iff text (ascii "con") htext (by decide)
  have hcoff := @strncasecmp_prefix_iff text (ascii "coff") htext (by decide)
  have hcpu := @strncasecmp_prefix_iff text (ascii "cpu ") htext (by decide)
  rw [fanOrder]
  exact if_congr hon rfl (if_congr hoff rfl (if_congr hset rfl (if_congr hcon rfl
    (if_congr hcoff rfl (if_congr hcpu rfl rfl)))))

theorem isSpaceOrTab_isBlank (c : UInt8) (hc : isSpaceOrTab c = true) : Board.isBlank c = true := by
  rw [isSpaceOrTab, Bool.or_eq_true, beq_iff_eq, beq_iff_eq] at hc
  rcases hc with rfl | rfl
  · rfl
  · rfl

theorem isBlank_lt {c : UInt8} (hc : Board.isBlank c = true) : c.toNat < 0x21 := by
  rw [Board.isBlank, Bool.and_eq_true, decide_eq_true_iff] at hc
  exact UInt8.lt_iff_toNat_lt.mp hc.1

theorem numberOf_blank {c : UInt8} (hc : Board.isBlank c = true) (tail : List UInt8) :
    numberOf (c :: tail) = none := by
  have hbound := isBlank_lt hc
  have hdigit : isdigit c = false := by
    rw [isdigit, Bool.and_eq_false_iff, decide_eq_false_iff_not, decide_eq_false_iff_not,
      UInt8.le_iff_toNat_le, UInt8.le_iff_toNat_le]
    show ¬ 48 ≤ c.toNat ∨ ¬ c.toNat ≤ 57
    omega
  have hplus : c ≠ 43 := by
    intro hsame
    subst hsame
    exact absurd hbound (by decide)
  have herror : kstrtoul (c :: tail) = .error eInval := by
    simp [kstrtoul, kstrtoull, kstrtoullDigits, simpleStrtoull, hdigit, hplus]
  rw [numberOf, herror]

/-- Behind a keyword the code finds the number of the command, or finds one behind junk. -/
theorem number_cases (pair : FanPair) (rest : List UInt8) :
    let order := (numberOf (rest.dropWhile Board.isBlank)).map (pair, ·)
    let command := (numberOf (rest.dropWhile isSpaceOrTab)).map (pair, ·)
    let junk := (∃ c ∈ rest.takeWhile Board.isBlank, isSpaceOrTab c = false) ∧
      (numberOf (rest.dropWhile Board.isBlank)).isSome
    (order = command ∧ ¬ junk) ∨ (command = none ∧ order.isSome ∧ junk) := by
  dsimp only
  obtain ⟨hall, hsame⟩ | ⟨c, tail, hmem, hc, hstop⟩ := dropWhile_cases isSpaceOrTab_isBlank rest
  · refine .inl ⟨by rw [hsame], ?_⟩
    intro hjunk
    obtain ⟨⟨c, hmem, hc⟩, -⟩ := hjunk
    rw [hall c hmem] at hc
    cases hc
  · rw [hstop, numberOf_blank (List.mem_takeWhile_imp hmem)]
    cases numberOf (rest.dropWhile Board.isBlank) with
    | none => exact .inl ⟨rfl, fun hjunk => absurd hjunk.2 Bool.false_ne_true⟩
    | some pwm => exact .inr ⟨rfl, rfl, ⟨c, hmem, hc⟩, rfl⟩

theorem not_wordJunk {low : List UInt8} (hcon : low.take 3 ≠ ascii "con")
    (hcoff : low.take 4 ≠ ascii "coff") :
    ¬ (low.take 3 = ascii "con" ∧ low ≠ ascii "con" ∨
      low.take 4 = ascii "coff" ∧ low ≠ ascii "coff") :=
  not_or.mpr ⟨fun hjunk => hcon hjunk.1, fun hjunk => hcoff hjunk.1⟩

theorem take_three_ne {low word : List UInt8} (hword : low.take 4 = word)
    (hdiffer : word.take 3 ≠ ascii "con") : low.take 3 ≠ ascii "con" := by
  rw [← hword, List.take_take] at hdiffer
  exact hdiffer

/-- The code orders what the command says, or takes junk for a command. -/
theorem fanOrder_cases (htext : 0 ∉ text) :
    (fanOrder text = commandOf text ∧ ¬ WordJunk text ∧ ¬ BlankJunk text) ∨
    (commandOf text = none ∧ (fanOrder text).isSome ∧ (WordJunk text ∨ BlankJunk text)) := by
  rw [fanOrder_eq htext, commandOf, WordJunk, BlankJunk]
  dsimp only
  generalize text.map tolower = low
  generalize text.drop 4 = rest
  by_cases hon : low = ascii "on"
  · subst hon
    exact .inl ⟨rfl, by decide, fun hjunk => absurd hjunk.1 (by decide)⟩
  by_cases hoff : low = ascii "off"
  · subst hoff
    exact .inl ⟨rfl, by decide, fun hjunk => absurd hjunk.1 (by decide)⟩
  rw [if_neg hon, if_neg hoff, if_neg hon, if_neg hoff]
  by_cases hset : low.take 4 = ascii "set "
  · have hcoff : low.take 4 ≠ ascii "coff" := by
      rw [hset]
      decide
    have hword := not_wordJunk (take_three_ne hset (by decide)) hcoff
    rw [if_pos hset, if_pos hset]
    obtain ⟨hsame, hjunk⟩ | ⟨hnone, hsome, hjunk⟩ := number_cases .sys rest
    · exact .inl ⟨hsame, hword, fun hblank => hjunk hblank.2⟩
    · exact .inr ⟨hnone, hsome, .inr ⟨.inl hset, hjunk⟩⟩
  rw [if_neg hset, if_neg hset]
  by_cases hcon : low.take 3 = ascii "con"
  · have hcoff : low.take 4 ≠ ascii "coff" := fun hcoff => take_three_ne hcoff (by decide) hcon
    have hcpu : low.take 4 ≠ ascii "cpu " := fun hcpu => take_three_ne hcpu (by decide) hcon
    rw [if_pos hcon]
    by_cases hword : low = ascii "con"
    · subst hword
      exact .inl ⟨rfl, by decide, fun hjunk => absurd hjunk.1 (by decide)⟩
    · have hlonger : low ≠ ascii "coff" := fun hsame => hcoff (congrArg (List.take 4) hsame)
      rw [if_neg hword, if_neg hlonger, if_neg hcpu]
      exact .inr ⟨rfl, rfl, .inl (.inl ⟨hcon, hword⟩)⟩
  have hnotCon : low ≠ ascii "con" := fun hsame => hcon (congrArg (List.take 3) hsame)
  rw [if_neg hcon, if_neg hnotCon]
  by_cases hcoff : low.take 4 = ascii "coff"
  · have hcpu : low.take 4 ≠ ascii "cpu " := by
      rw [hcoff]
      decide
    rw [if_pos hcoff]
    by_cases hword : low = ascii "coff"
    · subst hword
      exact .inl ⟨rfl, by decide, fun hjunk => absurd hjunk.1 (by decide)⟩
    · rw [if_neg hword, if_neg hcpu]
      exact .inr ⟨rfl, rfl, .inl (.inr ⟨hcoff, hword⟩)⟩
  have hnotCoff : low ≠ ascii "coff" := fun hsame => hcoff (congrArg (List.take 4) hsame)
  rw [if_neg hcoff, if_neg hnotCoff]
  have hword := not_wordJunk hcon hcoff
  by_cases hcpu : low.take 4 = ascii "cpu "
  · rw [if_pos hcpu, if_pos hcpu]
    obtain ⟨hsame, hjunk⟩ | ⟨hnone, hsome, hjunk⟩ := number_cases .cpu rest
    · exact .inl ⟨hsame, hword, fun hblank => hjunk hblank.2⟩
    · exact .inr ⟨hnone, hsome, .inr ⟨.inr hcpu, hjunk⟩⟩
  · rw [if_neg hcpu, if_neg hcpu]
    exact .inl ⟨rfl, hword, fun hblank => hblank.1.elim hset hcpu⟩

theorem numberOf_zero {rest : List UInt8} (hzero : 0 ∈ rest) :
    numberOf (rest.dropWhile isSpaceOrTab) = none := by
  have hleft : 0 ∈ rest.dropWhile isSpaceOrTab := by
    rw [← List.takeWhile_append_dropWhile (p := isSpaceOrTab) (l := rest)] at hzero
    rcases List.mem_append.mp hzero with hskipped | hleft
    · exact absurd (List.mem_takeWhile_imp hskipped) (by decide)
    · exact hleft
  rw [numberOf]
  cases hvalue : kstrtoul (rest.dropWhile isSpaceOrTab) with
  | error ret => rfl
  | ok pwm => exact absurd hleft (kstrtoul_zero hvalue)

theorem zero_not_mem_of_commandOf {line : List UInt8} {order : FanPair × Nat}
    (horder : commandOf line = some order) : 0 ∉ line := by
  intro hzero
  have hword : ∀ word : List UInt8, 0 ∉ word → line.map tolower ≠ word := by
    intro word hnot hsame
    exact hnot (hsame ▸ List.mem_map.mpr ⟨0, hzero, rfl⟩)
  have hnumber : ∀ word : List UInt8, 0 ∉ word → (line.map tolower).take 4 = word →
      numberOf ((line.drop 4).dropWhile isSpaceOrTab) = none := by
    intro word hnot htake
    apply numberOf_zero
    rw [← List.take_append_drop 4 line] at hzero
    rcases List.mem_append.mp hzero with hkeyword | hrest
    · rw [← htake, ← List.map_take] at hnot
      exact absurd (List.mem_map.mpr ⟨0, hkeyword, rfl⟩) hnot
    · exact hrest
  rw [commandOf, if_neg (hword _ (by decide)), if_neg (hword _ (by decide))] at horder
  split at horder
  · next hset =>
    rw [hnumber _ (by decide) hset] at horder
    cases horder
  rw [if_neg (hword _ (by decide)), if_neg (hword _ (by decide))] at horder
  split at horder
  · next hcpu =>
    rw [hnumber _ (by decide) hcpu] at horder
    cases horder
  · cases horder

end Text

/-! ### The file -/

def FanPair.modes : FanPair → List UInt8
  | .sys => [deviceFan3Mode, deviceFan4Mode]
  | .cpu => [deviceFan1Mode, deviceFan2Mode]

def FanPair.pwms : FanPair → List UInt8
  | .sys => [deviceFan3Pwm, deviceFan4Pwm]
  | .cpu => [deviceFan1Pwm, deviceFan2Pwm]

/-- Both fans of the pair in mode 1 with one PWM, and every other cell as it was. -/
def Board.withPwm (s : Board) (pair : FanPair) (pwm : UInt8) : Board :=
  { s with mem := fun cell =>
      if cell ∈ pair.modes then 1 else if cell ∈ pair.pwms then pwm else s.mem cell }

theorem applyAll_pair (mem : AtomicMemory) {mode1 pwm1 mode2 pwm2 : UInt8} (pwm : UInt8)
    (hfirst : mode1 ≠ pwm1 ∧ mode1 ≠ pwm2) (hsecond : mode2 ≠ pwm2) :
    mem.applyAll ([.write mode1 1, .write pwm1 pwm, .write mode2 1, .write pwm2 pwm].map
      fun call => (call, (0, none))) =
      fun cell => if cell ∈ [mode1, mode2] then 1 else if cell ∈ [pwm1, pwm2] then pwm
        else mem cell := by
  funext cell
  show Function.update (Function.update (Function.update (Function.update mem mode1 1) pwm1 pwm)
    mode2 1) pwm2 pwm cell = _
  simp only [Function.update_apply, List.mem_cons, List.not_mem_nil, or_false]
  by_cases hpwm2 : cell = pwm2
  · have hmode : ¬ (cell = mode1 ∨ cell = mode2) := by
      rw [hpwm2]
      exact not_or.mpr ⟨Ne.symm hfirst.2, Ne.symm hsecond⟩
    rw [if_pos hpwm2, if_neg hmode, if_pos (.inr hpwm2)]
  by_cases hmode2 : cell = mode2
  · rw [if_neg hpwm2, if_pos hmode2, if_pos (.inr hmode2)]
  by_cases hpwm1 : cell = pwm1
  · have hmode : ¬ (cell = mode1 ∨ cell = mode2) := by
      refine not_or.mpr ⟨?_, hmode2⟩
      rw [hpwm1]
      exact Ne.symm hfirst.1
    rw [if_neg hpwm2, if_neg hmode2, if_pos hpwm1, if_neg hmode, if_pos (.inl hpwm1)]
  by_cases hmode1 : cell = mode1
  · rw [if_neg hpwm2, if_neg hmode2, if_neg hpwm1, if_pos hmode1, if_pos (.inl hmode1)]
  · rw [if_neg hpwm2, if_neg hmode2, if_neg hpwm1, if_neg hmode1, if_neg (not_or.mpr ⟨hmode1, hmode2⟩),
      if_neg (not_or.mpr ⟨hpwm1, hpwm2⟩)]

theorem serve_handler (s : Board) (pair : FanPair) (pwm : UInt8) :
    s.serve (pair.handler pwm) = s.withPwm pair (limitPwm pwm) := by
  rw [Board.serve, Board.withPwm]
  congr 1
  cases pair with
  | sys => exact applyAll_pair s.mem _ (by decide) (by decide)
  | cpu => exact applyAll_pair s.mem _ (by decide) (by decide)

theorem limitPwm_ofNat {pwm : Nat} (hpwm : pwm < 256) :
    limitPwm (UInt8.ofNat pwm) = UInt8.ofNat (min pwm 198) := by
  have hle : UInt8.ofNat pwm ≥ 0xc6 ↔ 198 ≤ pwm := by
    rw [ge_iff_le, UInt8.le_iff_toNat_le, UInt8.toNat_ofNat']
    show 198 ≤ pwm % 2 ^ 8 ↔ _
    omega
  rw [limitPwm]
  split
  · next hhigh => rw [Nat.min_eq_right (hle.mp hhigh)]; rfl
  · next hlow => rw [Nat.min_eq_left (Nat.le_of_lt (Nat.lt_of_not_le (hle.not.mp hlow)))]

theorem numberOf_lt {p : List UInt8} {pwm : Nat} (hpwm : numberOf p = some pwm) : pwm < 256 := by
  rw [numberOf] at hpwm
  split at hpwm
  · cases hpwm
  · split at hpwm
    · next hbounds =>
      obtain rfl := Option.some.inj hpwm
      exact hbounds.2
    · cases hpwm

theorem commandOf_lt {line : List UInt8} {order : FanPair × Nat}
    (horder : commandOf line = some order) : order.2 < 256 := by
  have hnumber : ∀ (pair : FanPair) (p : List UInt8),
      (numberOf p).map (pair, ·) = some order → order.2 < 256 := by
    intro pair p hmap
    obtain ⟨pwm, hpwm, rfl⟩ := Option.map_eq_some_iff.mp hmap
    exact numberOf_lt hpwm
  rw [commandOf] at horder
  split at horder
  · obtain rfl := Option.some.inj horder
    decide
  split at horder
  · obtain rfl := Option.some.inj horder
    decide
  split at horder
  · exact hnumber _ _ horder
  split at horder
  · obtain rfl := Option.some.inj horder
    decide
  split at horder
  · obtain rfl := Option.some.inj horder
    decide
  split at horder
  · exact hnumber _ _ horder
  · cases horder

/-- The text of a write: what was written, without one final newline. -/
def lineOf (buffer : List UInt8) : List UInt8 :=
  if buffer.getLast? = some 0x0a then buffer.dropLast else buffer

/-- What a write is to do: serve its command, or be refused with every cell as it was. -/
def FollowsCommand (s : Board) (buffer : List UInt8) : Prop :=
  s.fanWrite buffer true =
    match commandOf (lineOf buffer) with
    | some (pair, pwm) => (s.withPwm pair (UInt8.ofNat (min pwm 198)), (buffer.length : Int))
    | none => (s, eInval)

theorem fanWrite_eq {buffer : List UInt8} (hsize : buffer.length ≤ 11) (s : Board) :
    s.fanWrite buffer true =
      match fanOrder (ofBuffer (lineOf buffer)) with
      | some (pair, pwm) => (s.serve (pair.handler (UInt8.ofNat pwm)), (buffer.length : Int))
      | none => (s, eInval) := by
  have htext : Board.startupText buffer = ofBuffer (lineOf buffer) := rfl
  rw [Board.fanWrite, if_neg (Nat.not_lt.mpr hsize), if_neg (by decide), fanCommand_eq, htext]
  cases fanOrder (ofBuffer (lineOf buffer)) with
  | none => rfl
  | some order => rfl

theorem ofBuffer_eq_self {text : List UInt8} (htext : 0 ∉ text) : ofBuffer text = text := by
  rw [ofBuffer, List.takeWhile_eq_self_iff]
  intro c hmem
  have hc : c ≠ 0 := by
    intro hzero
    exact htext (hzero ▸ hmem)
  simpa using hc

theorem fanWrite_followsCommand_iff (s : Board) {buffer : List UInt8}
    (hsize : 1 ≤ buffer.length ∧ buffer.length ≤ 11) :
    FollowsCommand s buffer ↔
      ¬ WordJunk (ofBuffer (lineOf buffer)) ∧ ¬ BlankJunk (ofBuffer (lineOf buffer)) ∧
      (0 ∈ lineOf buffer → commandOf (ofBuffer (lineOf buffer)) = none) := by
  have hcases := fanOrder_cases (zero_not_mem_ofBuffer (lineOf buffer))
  rw [FollowsCommand, fanWrite_eq hsize.2]
  cases horder : commandOf (lineOf buffer) with
  | some order =>
      have hline := zero_not_mem_of_commandOf horder
      rw [ofBuffer_eq_self hline] at hcases ⊢
      obtain ⟨hsame, hword, hblank⟩ | ⟨hnone, -⟩ := hcases
      · refine iff_of_true ?_ ⟨hword, hblank, fun hzero => absurd hzero hline⟩
        have hpwm := commandOf_lt horder
        rw [hsame, horder]
        dsimp only
        rw [serve_handler, limitPwm_ofNat hpwm]
      · rw [hnone] at horder
        cases horder
  | none =>
      have hrefused : ((match fanOrder (ofBuffer (lineOf buffer)) with
          | some (pair, pwm) => (s.serve (pair.handler (UInt8.ofNat pwm)), (buffer.length : Int))
          | none => (s, eInval)) = (s, eInval)) ↔ fanOrder (ofBuffer (lineOf buffer)) = none := by
        cases fanOrder (ofBuffer (lineOf buffer)) with
        | none => exact iff_of_true rfl rfl
        | some order =>
            refine iff_of_false (fun hpair => ?_) (Option.some_ne_none _)
            have hret : (buffer.length : Int) = eInval := congrArg Prod.snd hpair
            rw [eInval] at hret
            omega
      refine hrefused.trans ?_
      obtain ⟨hsame, hword, hblank⟩ | ⟨hnone, hsome, hjunk⟩ := hcases
      · rw [hsame]
        constructor
        · intro hnone
          exact ⟨hword, hblank, fun _ => hnone⟩
        · intro hgiven
          by_cases hzero : 0 ∈ lineOf buffer
          · exact hgiven.2.2 hzero
          · rw [ofBuffer_eq_self hzero]
            exact horder
      · refine iff_of_false ?_ ?_
        · intro hempty
          rw [hempty] at hsome
          cases hsome
        · intro hgiven
          exact hjunk.elim hgiven.1 hgiven.2.1

/-- Both system fans at 20. -/
theorem fanWrite_followsCommand_set : FollowsCommand ⟨fun _ => 0, 0, false⟩ (ascii "SET  20\n") :=
  (fanWrite_followsCommand_iff _ (by decide)).mpr ⟨by decide, by decide, by decide⟩

theorem fanWrite_takes_junk : ¬ ∀ (s : Board) (buffer : List UInt8),
    1 ≤ buffer.length ∧ buffer.length ≤ 11 → FollowsCommand s buffer := by
  intro halways
  have hfollows := halways ⟨fun _ => 0, 0, false⟩ (ascii "confused") (by decide)
  have hret := congrArg Prod.snd hfollows
  exact absurd hret (by decide)

end FrontPanel.Sio
