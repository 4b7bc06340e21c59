import FrontPanel.Sio.BoardSettings

/-!
# The fan file

`fan_write` of `ug_it55pro_functions.c`, the write handler of `/proc/it86/fan`, on a board whose accesses succeed. A command is a keyword of its own, or one of the keywords `set` and `cpu` with a number behind it.
-/

namespace FrontPanel.Sio.Board

open CString

/-- The condition of the loop over blanks, `(*p < 0x21) && (*p != '\0')`. Since the kernel is built with `-funsigned-char`, the bytes from 0x80 on are none. -/
def isBlank (c : UInt8) : Bool := c < 0x21 && c ≠ 0

/-- The number behind a keyword: the new board and `result`. -/
def fanNumber (s : Board) (setFan : UInt8 → SioHandler) (p : List UInt8) : Board × Int :=
  if p ≠ [] then
    match kstrtoul p with
    | .error _ => (s, eInval)
    | .ok pwm =>
        if pwm > 0 ∧ pwm < 256 then (s.serve (setFan (UInt8.ofNat pwm)), 0)
        else (s, eInval)
  else (s, eInval)

/-- What `fan_write` does with the text in `buf`: the new board and `result`. -/
def fanCommand (s : Board) (buf : List UInt8) : Board × Int :=
  if strncasecmp buf (ascii "on") 3 = 0 then (s.serve (.setSysFan 127), 0)
  else if strncasecmp buf (ascii "off") 4 = 0 then (s.serve (.setSysFan 0), 0)
  else if strncasecmp buf (ascii "set ") 4 = 0 then
    s.fanNumber .setSysFan ((buf.drop 4).dropWhile isBlank)
  else if strncasecmp buf (ascii "con") 3 = 0 then (s.serve (.setCpuFan 127), 0)
  else if strncasecmp buf (ascii "coff") 4 = 0 then (s.serve (.setCpuFan 0), 0)
  else if strncasecmp buf (ascii "cpu ") 4 = 0 then
    s.fanNumber .setCpuFan ((buf.drop 4).dropWhile isBlank)
  else (s, eInval)

/-- The new board and what the write returns; `copied` is whether `copy_from_user` succeeds. -/
def fanWrite (s : Board) (buffer : List UInt8) (copied : Bool) : Board × Int :=
  if buffer.length > 11 then (s, eInval)
  else if ¬ copied then (s, eFault)
  else
    -- the prologue is that of `set_power_status`
    let (s, result) := s.fanCommand (startupText buffer)
    (s, if result ≠ 0 then result else buffer.length)

end FrontPanel.Sio.Board
