import Busbind.Excerpt
import Busbind.Rejection
import Busbind.Text.Wrapped

/-! A rejection as a report for people: its code, its wrapped message with what lies behind it, the
excerpt of the source and advice. -/
namespace Busbind.Report

def textColumns : Nat := 74

def hanging (first rest : String) (limit : Nat) (text : String) : String :=
  match Text.wrapped limit text.toList with
  | [] => ""
  | l :: ls =>
    first ++ String.ofList l ++ "\n" ++
      String.join (ls.map fun m => rest ++ String.ofList m ++ "\n")

end Busbind.Report

namespace Busbind.Rejection

def report (path source : String) (r : Rejection) : String :=
  r.code ++ "\n\n" ++
    Report.hanging "  × " "  │ " Report.textColumns r.message ++
    (match r.cause with
      | some cause => Report.hanging "  ╰─▶ " "      " (Report.textColumns - 2) cause
      | none => "") ++
    (match r.span, r.label with
      | some span, some label => Excerpt.render path source (Spot.ofSpan span) label
      | _, _ => "") ++
    (match r.help with
      | some help => "  help: " ++ help ++ "\n"
      | none => "")

end Busbind.Rejection
