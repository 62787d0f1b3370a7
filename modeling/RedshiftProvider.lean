import RedshiftProvider.Go.Strings
import RedshiftProvider.Go.Errors
import RedshiftProvider.Go.Url
import RedshiftProvider.Sql.Lexer
import RedshiftProvider.Sql.Quote
import RedshiftProvider.Catalog.Basic
import RedshiftProvider.Catalog.Lemmas
import RedshiftProvider.Catalog.WellFormed
import RedshiftProvider.Catalog.Members
import RedshiftProvider.Impl.ResourceData
import RedshiftProvider.Impl.Helpers
import RedshiftProvider.Impl.GroupMembership
import RedshiftProvider.Impl.Group
import RedshiftProvider.Impl.DefaultPrivileges
import RedshiftProvider.Impl.ConfigPqProxy
import RedshiftProvider.Lemmas.Helpers
import RedshiftProvider.Lemmas.Retry
import RedshiftProvider.Lemmas.Quoting
import RedshiftProvider.Lemmas.Decimal
import RedshiftProvider.Lemmas.Group
import RedshiftProvider.Lemmas.GroupMembership
import RedshiftProvider.Lemmas.DefaultPrivileges
import RedshiftProvider.Lemmas.Url
import RedshiftProvider.Lemmas.ConfigPqProxy
import RedshiftProvider.Lemmas.Operations
import RedshiftProvider.Lemmas.Members
import RedshiftProvider.Lemmas.Frame
