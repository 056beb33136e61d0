import TypedGraphQL.Config
import TypedGraphQL.Proofs.Http.VisitOrder
import TypedGraphQL.Proofs.Name.Again
import TypedGraphQL.Proofs.Name.Agreement
import TypedGraphQL.Proofs.Name.Place
import TypedGraphQL.Proofs.Operation.Declared
import TypedGraphQL.Proofs.Operation.Distinct
import TypedGraphQL.Proofs.Operation.Outcome
import TypedGraphQL.Proofs.Operation.Signature
import TypedGraphQL.Proofs.Request.RoundTrip
import TypedGraphQL.Proofs.Response.Edited
import TypedGraphQL.Proofs.Response.Precedence
import TypedGraphQL.Proofs.Scalar.RoundTrip
import TypedGraphQL.Proofs.Selection.Embedding
import TypedGraphQL.Proofs.Selection.Forest
import TypedGraphQL.Proofs.Selection.Meaning
import TypedGraphQL.Proofs.Selection.Nesting
import TypedGraphQL.Proofs.Selection.Violation
import TypedGraphQL.Proofs.Variables.Conforms
import TypedGraphQL.Proofs.Variables.History
