import SyntaxPlayground.CommandLine.Basic
import SyntaxPlayground.Compiler.Backoff
import SyntaxPlayground.Compiler.Service
import SyntaxPlayground.Configuration
import SyntaxPlayground.Dump.Reader
import SyntaxPlayground.Json.Field
import SyntaxPlayground.Json.Reader
import SyntaxPlayground.Main
import SyntaxPlayground.Markdown.Block
import SyntaxPlayground.Markup.OfTree
import SyntaxPlayground.Markup.Reader
import SyntaxPlayground.Outline
import SyntaxPlayground.Page.Scene
import SyntaxPlayground.Proofs.Compiler.Window
import SyntaxPlayground.Proofs.Dump.Ancestry
import SyntaxPlayground.Proofs.Dump.Grammar
import SyntaxPlayground.Proofs.Dump.Noise
import SyntaxPlayground.Proofs.Dump.Siblings
import SyntaxPlayground.Proofs.Editor.Range
import SyntaxPlayground.Proofs.Markup.Unambiguous
import SyntaxPlayground.Proofs.Page.Dispatch
import SyntaxPlayground.Proofs.Page.Handles
import SyntaxPlayground.Proofs.Page.Light
import SyntaxPlayground.Proofs.Page.Ownership
import SyntaxPlayground.Proofs.Server.Admission
import SyntaxPlayground.Proofs.Server.Delivery
import SyntaxPlayground.Proofs.Server.Refusal
import SyntaxPlayground.Proofs.Server.Transport
import SyntaxPlayground.Proofs.Session.Click
import SyntaxPlayground.Proofs.Session.Coherence
import SyntaxPlayground.Proofs.Session.Event
import SyntaxPlayground.Proofs.Session.Failure
import SyntaxPlayground.Proofs.Session.Highlight
import SyntaxPlayground.Proofs.Session.History
import SyntaxPlayground.Proofs.Session.Loop
import SyntaxPlayground.Proofs.Session.Serial
import SyntaxPlayground.Proofs.Store.Accounting
import SyntaxPlayground.Sample
import SyntaxPlayground.Server.Basic
import SyntaxPlayground.SessionId
import SyntaxPlayground.Store
import SyntaxPlayground.Text.Case
import SyntaxPlayground.Text.Quoted
import SyntaxPlayground.Tree.Draft
import SyntaxPlayground.Proofs.Compiler.Retry
import SyntaxPlayground.Proofs.Server.Key
import SyntaxPlayground.Proofs.Text.Character
import SyntaxPlayground.Proofs.Json.ReadBack
import SyntaxPlayground.Proofs.Server.Capacity
import SyntaxPlayground.Proofs.SessionId.Age
import SyntaxPlayground.Proofs.Page.Bookkeeping
import SyntaxPlayground.Proofs.Sample.Section
import SyntaxPlayground.Proofs.Page.ClassList
