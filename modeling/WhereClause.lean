import WhereClause.Directory
import WhereClause.Main
import WhereClause.Proofs.Acceptance
import WhereClause.Proofs.Rejection
import WhereClause.Proofs.Sql.Backslash
import WhereClause.Proofs.Sql.Terminators
import WhereClause.Proofs.Token.Specification
import WhereClause.Proofs.Draft.Nesting
import WhereClause.Proofs.Translator.Composition
import WhereClause.Proofs.Draft.Shape
import WhereClause.Proofs.Source.Leaves
import WhereClause.Proofs.Source.Printing
import WhereClause.Proofs.Source.NormalForm
import WhereClause.Proofs.Draft.Place
import WhereClause.Proofs.Reserved
import WhereClause.Proofs.Translator.Reserved
import WhereClause.Proofs.Parser.History
import WhereClause.Proofs.Translator.Layout
import WhereClause.Proofs.Filter.Level
import WhereClause.Proofs.Draft.Negations
import WhereClause.Proofs.Command.Session
import WhereClause.Proofs.Translator.Quotes
import WhereClause.Proofs.Token.Composition
import WhereClause.Proofs.Select
import WhereClause.Proofs.Field.Normalization
import WhereClause.Proofs.Settings.Reading
import WhereClause.Proofs.Numeral.Exactness
