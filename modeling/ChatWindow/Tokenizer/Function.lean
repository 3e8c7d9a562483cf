import ChatWindow.Message.Record
import ChatWindow.Template
import ChatWindow.Text.Search

/-!
# Simple tokenizers

A tokenizer made of a function: words, characters or bytes of the text, a table of lengths, or one
fixed value.
-/

namespace ChatWindow.Tokenizer

/-- The result of the function is gone through for the tokens; either may fail. Both happen in a
coroutine. -/
def ofFunction {α : Type} (function : Text → Except Failure α)
    (items : α → Except Failure (List Value)) : Tokenizer where
  tokenize s := (do items (← function s)).mapError Failure.leaving

def ofList (function : Text → Except Failure (List Value)) : Tokenizer :=
  ofFunction function .ok

def numbered (n : Nat) : List Value := (List.range n).map fun i => Value.int (Int.ofNat i)

def words : Tokenizer := ofList fun s => .ok (numbered (Text.words Code.isBlank s.codes).length)

def chars : Tokenizer :=
  ofList fun s => .ok (s.codes.map fun c => Value.int (Int.ofNat c.toNat))

def notEncodable (b : Broken) : Failure :=
  let start := (b.codes.takeWhile fun c => !c.isHalf).length
  let run := (b.codes.drop start).takeWhile Code.isHalf
  let place := match run with
    | [c] => s!"character {(Text.quoted (.ofCodes [c]))} in position {start}"
    | run => s!"characters in position {start}-{start + run.length - 1}"
  .raised (.other "UnicodeEncodeError" .plain)
    s!"'utf-8' codec can't encode {place}: surrogates not allowed"

def bytes : Tokenizer :=
  ofList fun
    | .plain s =>
      .ok ((s.toList.flatMap String.utf8EncodeChar).map fun b => Value.int (Int.ofNat b.toNat))
    | .broken b => .error (notEncodable b)

def failing (piece : Text) (f : Failure) : Tokenizer :=
  ofList fun s =>
    if Text.contains piece.codes s.codes then .error f
    else .ok ((Text.words Code.isBlank s.codes).map fun w => .text (.ofCodes w))

def table (lengths : Text → Nat) : Tokenizer :=
  ofList fun s => .ok (List.replicate (lengths s) (.int 0))

def returning (v : Value) : Tokenizer := ofFunction (fun _ => .ok v) Value.items

end ChatWindow.Tokenizer
