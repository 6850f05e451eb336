import LexerConsole.Main
import LexerConsole.Session.Highlight
import LexerConsole.Syntax
import LexerConsole.Proofs.Layout
import LexerConsole.Proofs.Locality
import LexerConsole.Proofs.Reads
import LexerConsole.Proofs.Progress
import LexerConsole.Proofs.Bookmark
import LexerConsole.Proofs.Strays
import LexerConsole.Proofs.Buffers
import LexerConsole.Proofs.Decoding
import LexerConsole.Proofs.EscapeCodes
import LexerConsole.Proofs.Spacing
import LexerConsole.Proofs.Highlighting
import LexerConsole.Proofs.Sessions
import LexerConsole.Proofs.CommandLines
import LexerConsole.Proofs.Commands
import LexerConsole.Proofs.Folders
import LexerConsole.Proofs.Modes
import LexerConsole.Proofs.CommandGrammar
import LexerConsole.Proofs.FirstTokens
import LexerConsole.Proofs.Completions
import LexerConsole.Proofs.AcceptedOffers
import LexerConsole.Proofs.WordStarts
import LexerConsole.Proofs.Hints
import LexerConsole.Proofs.AcceptedHints
import LexerConsole.Proofs.LogLines
import LexerConsole.Proofs.ScanLog
import LexerConsole.Proofs.TokenEnds
import LexerConsole.Proofs.Complaints
import LexerConsole.Proofs.NodeTokens
