import Tablewright.Text.Quoted

/-!
# The base template

The module that generated methods are put into: a class with the generic primitives and a marker
at the place of the methods. It is written once and may be edited afterwards.
-/

namespace Tablewright.Template

/-- The code of the answer that a single row was asked for and none or several were found. -/
def notFoundCode : String := "PGRST116"

/-- The heading: what the module is for, what it imports, and its constants. -/
def headingLines
    (className : String) : List String :=
  ["\"\"\"",
    "Data-access layer for the tables declared in the Supabase database types.",
    "",
    className ++ " holds the generic CRUD primitives. The per-table methods that",
    "follow the marker comment are regenerated by supabase-api-gen on every run;",
    "the primitives in this template file are never overwritten, so they can be",
    "edited by hand.",
    "\"\"\"",
    "",
    "import logging",
    "from typing import TYPE_CHECKING, Any, Dict, List, Optional, Sequence, TypedDict, Union",
    "",
    "from postgrest.exceptions import APIError",
    "",
    "if TYPE_CHECKING:",
    "    from supabase import Client",
    "",
    "logger = logging.getLogger(__name__)",
    "",
    "# PostgREST code for \"JSON object requested, multiple (or no) rows returned\"",
    "NOT_FOUND_ERROR_CODE = " ++ Text.quoted notFoundCode,
    "",
    "# filter key -> query builder method, applied in this order",
    "FILTER_OPERATORS = (",
    "    (\"gt\", \"gt\"),",
    "    (\"gte\", \"gte\"),",
    "    (\"lt\", \"lt\"),",
    "    (\"lte\", \"lte\"),",
    "    (\"neq\", \"neq\"),",
    "    (\"like\", \"like\"),",
    "    (\"ilike\", \"ilike\"),",
    "    (\"is\", \"is_\"),",
    ")",
    ""]

/-- The types of records, and the beginning of the class. -/
def classLines
    (className : String) : List String :=
  ["Record = Dict[str, Any]",
    "RecordId = Union[str, int]",
    "",
    "",
    "class RecordUpdate(TypedDict):",
    "    id: RecordId",
    "    data: Record",
    "",
    "",
    "class " ++ className ++ ":",
    "    \"\"\"",
    "    Generic CRUD operations for Supabase tables.",
    "",
    "    The client is injected so the class can be used with any configured",
    "    Supabase client, or with a stand-in in tests.",
    "    \"\"\"",
    "",
    "    def __init__(self, client: \"Client\"):",
    "        self.client = client",
    ""]

/-- The translation of filters. -/
def filterLines : List String :=
  ["    def _apply_filters(self, query, filters: Optional[Dict[str, Any]] = None):",
    "        \"\"\"",
    "        Apply filters to a query.",
    "",
    "        Each key is a column name. ``None`` tests for null, a list tests set",
    "        membership, a dict applies operators (gt, gte, lt, lte, neq, like,",
    "        ilike, is) and any other value tests equality.",
    "        \"\"\"",
    "        if not filters:",
    "            return query",
    "",
    "        for column, value in filters.items():",
    "            if value is None:",
    "                query = query.is_(column, \"null\")",
    "            elif isinstance(value, (list, tuple, set)):",
    "                query = query.in_(column, list(value))",
    "            elif isinstance(value, dict):",
    "                for key, method in FILTER_OPERATORS:",
    "                    if key in value:",
    "                        operand = value[key]",
    "                        if key == \"is\" and operand is None:",
    "                            operand = \"null\"",
    "                        query = getattr(query, method)(column, operand)",
    "            else:",
    "                query = query.eq(column, value)",
    "",
    "        return query",
    ""]

/-- The primitive that reads all rows. -/
def getAllLines : List String :=
  ["    def get_all(",
    "        self,",
    "        table_name: str,",
    "        *,",
    "        select: str = \"*\",",
    "        id_field: str = \"id\",",
    "        limit: Optional[int] = None,",
    "        page: int = 0,",
    "        filters: Optional[Dict[str, Any]] = None,",
    "    ) -> List[Record]:",
    "        \"\"\"",
    "        Get all records from a table.",
    "",
    "        When ``limit`` is given, ``page`` selects a zero-based page of that size.",
    "        \"\"\"",
    "        try:",
    "            query = self.client.table(table_name).select(select or \"*\")",
    "            query = self._apply_filters(query, filters)",
    "",
    "            if limit is not None:",
    "                offset = (page or 0) * limit",
    "                query = query.range(offset, offset + limit - 1)",
    "",
    "            response = query.execute()",
    "            return response.data or []",
    "        except Exception as e:",
    "            logger.error(f\"Error in get_all for \x7btable_name\x7d: \x7be\x7d\")",
    "            raise",
    ""]

/-- The primitive that reads one row. -/
def getByIdLines : List String :=
  ["    def get_by_id(",
    "        self,",
    "        table_name: str,",
    "        record_id: RecordId,",
    "        *,",
    "        select: str = \"*\",",
    "        id_field: str = \"id\",",
    "    ) -> Optional[Record]:",
    "        \"\"\"Get a single record, or None if it does not exist.\"\"\"",
    "        try:",
    "            response = (",
    "                self.client.table(table_name)",
    "                .select(select or \"*\")",
    "                .eq(id_field or \"id\", record_id)",
    "                .single()",
    "                .execute()",
    "            )",
    "        except APIError as e:",
    "            if e.code == NOT_FOUND_ERROR_CODE:",
    "                return None",
    "            logger.error(f\"Error in get_by_id for \x7btable_name\x7d: \x7be\x7d\")",
    "            raise",
    "        except Exception as e:",
    "            logger.error(f\"Error in get_by_id for \x7btable_name\x7d: \x7be\x7d\")",
    "            raise",
    "        return response.data",
    ""]

/-- The primitive that inserts one row. -/
def createLines : List String :=
  ["    def create(self, table_name: str, data: Record) -> Record:",
    "        \"\"\"Insert one record and return it.\"\"\"",
    "        try:",
    "            response = self.client.table(table_name).insert(data).execute()",
    "            if not response.data:",
    "                raise APIError(",
    "                    \x7b",
    "                        \"message\": f\"Insert into \x7btable_name\x7d returned no row\",",
    "                        \"code\": NOT_FOUND_ERROR_CODE,",
    "                        \"details\": \"The result contains 0 rows\",",
    "                        \"hint\": None,",
    "                    \x7d",
    "                )",
    "            return response.data[0]",
    "        except Exception as e:",
    "            logger.error(f\"Error in create for \x7btable_name\x7d: \x7be\x7d\")",
    "            raise",
    ""]

/-- The primitive that inserts several rows. -/
def createManyLines : List String :=
  ["    def create_many(self, table_name: str, data: Sequence[Record]) -> List[Record]:",
    "        \"\"\"Insert several records in one request.\"\"\"",
    "        try:",
    "            response = self.client.table(table_name).insert(list(data)).execute()",
    "            return response.data or []",
    "        except Exception as e:",
    "            logger.error(f\"Error in create_many for \x7btable_name\x7d: \x7be\x7d\")",
    "            raise",
    ""]

/-- The update of one row, which two primitives share. -/
def updateRecordLines : List String :=
  ["    def _update_record(",
    "        self, table_name: str, record_id: RecordId, data: Record, id_field: str",
    "    ) -> Record:",
    "        response = (",
    "            self.client.table(table_name)",
    "            .update(data)",
    "            .eq(id_field or \"id\", record_id)",
    "            .execute()",
    "        )",
    "        if not response.data:",
    "            raise APIError(",
    "                \x7b",
    "                    \"message\": f\"No row in \x7btable_name\x7d with \x7bid_field or 'id'\x7d=\x7brecord_id\x7d\",",
    "                    \"code\": NOT_FOUND_ERROR_CODE,",
    "                    \"details\": \"The result contains 0 rows\",",
    "                    \"hint\": None,",
    "                \x7d",
    "            )",
    "        return response.data[0]",
    ""]

/-- The primitive that updates one row. -/
def updateLines : List String :=
  ["    def update(",
    "        self,",
    "        table_name: str,",
    "        record_id: RecordId,",
    "        data: Record,",
    "        *,",
    "        id_field: str = \"id\",",
    "    ) -> Record:",
    "        \"\"\"Update one record and return the updated row.\"\"\"",
    "        try:",
    "            return self._update_record(table_name, record_id, data, id_field)",
    "        except Exception as e:",
    "            logger.error(f\"Error in update for \x7btable_name\x7d: \x7be\x7d\")",
    "            raise",
    ""]

/-- The primitive that updates several rows. -/
def updateManyLines : List String :=
  ["    def update_many(",
    "        self,",
    "        table_name: str,",
    "        updates: Sequence[RecordUpdate],",
    "        *,",
    "        id_field: str = \"id\",",
    "    ) -> List[Record]:",
    "        \"\"\"",
    "        Update several records with different values.",
    "",
    "        PostgREST cannot apply per-row values in a single request, so the",
    "        updates run one at a time. The first failure stops the sequence and",
    "        is raised; later updates are not attempted.",
    "        \"\"\"",
    "        updated_records: List[Record] = []",
    "        try:",
    "            for update in updates:",
    "                updated_records.append(",
    "                    self._update_record(table_name, update[\"id\"], update[\"data\"], id_field)",
    "                )",
    "        except Exception as e:",
    "            logger.error(f\"Error in update_many for \x7btable_name\x7d: \x7be\x7d\")",
    "            raise",
    "        return updated_records",
    ""]

/-- The primitive that deletes one row. -/
def deleteLines : List String :=
  ["    def delete(self, table_name: str, record_id: RecordId, *, id_field: str = \"id\") -> None:",
    "        \"\"\"Delete one record.\"\"\"",
    "        try:",
    "            self.client.table(table_name).delete().eq(id_field or \"id\", record_id).execute()",
    "        except Exception as e:",
    "            logger.error(f\"Error in delete for \x7btable_name\x7d: \x7be\x7d\")",
    "            raise",
    ""]

/-- The marker of the generated methods, and what follows it. -/
def markerLines
    (className placeholder : String) : List String :=
  ["    # Generated CRUD methods for specific tables",
    "    " ++ placeholder,
    "",
    "",
    "def create_api(url: str, key: str) -> " ++ className ++ ":",
    "    \"\"\"Build a " ++ className ++ " backed by a new Supabase client.\"\"\"",
    "    from supabase import create_client",
    "",
    "    return " ++ className ++ "(create_client(url, key))"]

/-- The lines of the template for a class and a marker. -/
def baseLines
    (className placeholder : String) : List String :=
  headingLines className ++ classLines className ++ filterLines ++ getAllLines ++ getByIdLines ++
    createLines ++ createManyLines ++ updateRecordLines ++ updateLines ++ updateManyLines ++
    deleteLines ++ markerLines className placeholder

/-- The template for a class and a marker, each line of which is ended. -/
def base
    (className placeholder : String) : String :=
  String.intercalate "\n" (baseLines className placeholder) ++ "\n"

end Tablewright.Template
